import PatternForge.Text.Wrapped

/-!
The help texts of the commands. What an option does is told in one line, for the short help, and in
paragraphs, for the long one; options are listed by their long names.
-/
namespace PatternForge.CommandLine

/-- The commands. -/
inductive Command where
  | check
  | confound
  | debug
  | generate
  deriving DecidableEq, Repr

/-- The command with a name. -/
def Command.named? (name : String) : Option Command :=
  match name with
  | "check" => some .check
  | "confound" => some .confound
  | "debug" => some .debug
  | "generate" => some .generate
  | _ => none

/-- Options that belong together. -/
inductive OptionGroup where
  /-- Which patterns. -/
  | patterns
  /-- How patterns are read. -/
  | reading
  /-- How many strings, and of what kind. -/
  | drawing
  /-- What is asked of patterns. -/
  | policy
  /-- Where randomness starts. -/
  | seed
  deriving DecidableEq, Repr

/-- The options that a command takes. -/
def Command.groups : Command → List OptionGroup
  | check => [.patterns, .reading, .policy, .seed]
  | confound | generate => [.patterns, .reading, .drawing, .seed]
  | debug => [.patterns, .reading]

/-- The description of an option. -/
structure OptionHelp where
  /-- How it is written. -/
  form : String
  /-- What it does, in a line. -/
  summary : String
  /-- What it does, in paragraphs. -/
  details : List String

/-- The descriptions of the options of a group. -/
def OptionGroup.help : OptionGroup → List OptionHelp
  | patterns =>
    [{ form := "-p, --pattern <pattern>"
       summary := "Add a pattern to this command."
       details :=
        ["This adds a new pattern to the command. It is equivalent to giving the pattern
          as a positional argument, but works for patterns that start with a '-'.",
         "All patterns given must be valid UTF-8."] },
     { form := "-f, --pattern-file"
       summary := "Read patterns from the file given."
       details :=
        ["Reads patterns, one per line, from the file given. Empty lines are skipped.",
         "All patterns given must be valid UTF-8."] }]
  | reading =>
    [{ form := "--universe <name>"
       summary := "One of: ascii, latin1, bmp."
       details :=
        ["Set the universe of characters that classes are resolved in. Negated classes
          and confounded classes are complements within this universe, so a wider
          universe yields stranger strings.",
         "The default is 'ascii'. 'latin1' covers U+0000 through U+00FF and 'bmp' covers
          the basic multilingual plane up to U+D7FF."] },
     { form := "--cap <number>"
       summary := "Bound unbounded repetitions."
       details :=
        ["Set the upper bound on how many times '*', '+' and counted repetitions with a
          large or missing maximum are repeated. A repetition's minimum is always
          honored, even when it exceeds the cap.",
         "The default is 10."] },
     { form := "--nest-limit <number>"
       summary := "Set the nesting limit of the parser."
       details :=
        ["Patterns that nest groups, classes and repetitions deeper than this limit are
          rejected.",
         "The default is 50."] },
     { form := "-i, --case-insensitive"
       summary := "Parse every pattern as if it started with (?i)."
       details :=
        ["When enabled, letters in every pattern match either case, and generated
          strings mix cases."] },
     { form := "-s, --dot-matches-new-line"
       summary := "Parse every pattern as if it started with (?s)."
       details :=
        ["When enabled, '.' matches any character of the universe, including a line
          feed."] }]
  | drawing =>
    [{ form := "-n, --count <number>"
       summary := "The number of strings to print per pattern."
       details :=
        ["The number of strings to generate and print for each pattern.",
         "The default is 10."] },
     { form := "--attempts <number>"
       summary := "Give up after this many tries."
       details :=
        ["The total number of strings that may be generated for each pattern while
          trying to produce the requested count. This bounds the work done for patterns
          whose strings are rarely accepted, e.g., because of anchors or word
          boundaries. Patterns whose backreferences can be left unbound also consume
          attempts.",
         "The default is 1000."] },
     { form := "--checked"
       summary := "Only print strings that pass the matcher."
       details :=
        ["When enabled, each generated string is checked against the pattern before it
          is printed. For 'generate', only strings that match are printed. For
          'confound', only strings that do not match are printed.",
         "If the requested count cannot be reached within the number of attempts, the
          command fails."] },
     { form := "--distinct"
       summary := "Print distinct checked strings in sorted order."
       details :=
        ["When enabled, the strings printed for a pattern are distinct and sorted. This
          implies --checked. If the pattern's language has fewer strings than the count
          requested, the command fails."] }]
  | policy =>
    [{ form := "-n, --sample-size <number>"
       summary := "The number of strings sampled per pattern."
       details :=
        ["The number of strings generated from each pattern, and again from its
          confounded counterpart, when checking it.",
         "The default is 100."] },
     { form := "--min-match <ratio>"
       summary := "Require more than this fraction to match."
       details :=
        ["A pattern is rejected unless more than this fraction of the strings generated
          from it match it. The ratio must be between 0 and 1.",
         "The default is 0.33."] },
     { form := "--max-confounded <ratio>"
       summary := "Require fewer confounded strings to match."
       details :=
        ["A pattern that can be confounded is rejected unless fewer than this fraction
          of its confounded strings match it. Patterns that cannot be confounded at all
          are judged on their plain sample alone. The ratio must be between 0 and 1.",
         "The default is 0.70."] }]
  | seed =>
    [{ form := "--seed <number>"
       summary := "Seed the random number generator."
       details :=
        ["Seed the random number generator with the given 64-bit number. The same seed,
          patterns and flags always produce the same output.",
         "When absent, a random seed is chosen. Run with RUST_LOG=info to see it."] }]

namespace OptionHelp

/-- What an option is listed by: its long name. -/
def key (option : OptionHelp) : String :=
  match option.form.toList with
  | _ :: _ :: ',' :: ' ' :: long => String.ofList long
  | _ => option.form

/-- The line of an option in the short help, with its form set in a column. -/
def summaryLine (column : Nat) (option : OptionHelp) : String :=
  "    " ++ option.form ++ String.ofList (List.replicate (column - option.form.length) ' ') ++
    option.summary

/-- The lines of an option in the long help. -/
def detailLines (option : OptionHelp) : List String :=
  ("    " ++ option.form) ::
    ((option.details.map (Text.wrapped 79 8)).intersperse [""]).flatten

end OptionHelp

namespace Command

/-- What a command does, and how it is written. -/
def description : Command → List String
  | check =>
    ["Checks whether each pattern is a good source of test strings.",
     "",
     "For each pattern, a sample of generated strings and a sample of confounded",
     "strings are matched against it. The pattern passes when enough of the former",
     "match and few enough of the latter do. One line is printed per pattern, and",
     "the command fails if any pattern is rejected.",
     "",
     "USAGE:",
     "    xeger-cli check [-n <sample-size>] [--seed <number>] <pattern> ..."]
  | confound =>
    ["Prints confounded strings for each of the patterns given.",
     "",
     "A confounded string has the shape of a string the pattern matches, but every",
     "literal and class in the pattern is replaced by something disjoint from it.",
     "Such strings are near misses, useful as negative test data. Use --checked to",
     "print only strings that really fail to match.",
     "",
     "A pattern with nothing to confound, such as '(?s).*', is an error.",
     "",
     "USAGE:",
     "    xeger-cli confound [-n <count>] [--seed <number>] <pattern> ..."]
  | debug =>
    ["Prints how each pattern was parsed.",
     "",
     "This shows the parsed pattern printed back as a regex, its capture groups,",
     "the engine used to match it, its confounded counterpart and an outline of",
     "its syntax tree.",
     "",
     "USAGE:",
     "    xeger-cli debug <pattern> ..."]
  | generate =>
    ["Prints strings generated from each of the patterns given.",
     "",
     "Strings are printed one per line, grouped by pattern in the order the patterns",
     "were given. Without --checked, strings are printed as generated. Patterns with",
     "anchors or word boundaries in the middle may then produce strings that do not",
     "match.",
     "",
     "USAGE:",
     "    xeger-cli generate [-n <count>] [--seed <number>] <pattern> ..."]

/-- The options of a command by their long names. -/
def options (command : Command) : List OptionHelp :=
  (command.groups.flatMap OptionGroup.help).mergeSort fun a b => a.key ≤ b.key

/-- The lines about the options in the short help. -/
def shortLines (options : List OptionHelp) : List String :=
  let column := (options.map fun option => option.form.length).foldl max 0 + 2
  options.map (OptionHelp.summaryLine column)

/-- The lines about the options in the long help. -/
def longLines (options : List OptionHelp) : List String :=
  ((options.map OptionHelp.detailLines).intersperse [""]).flatten

/-- The help text of a command. -/
def help (command : Command) (long : Bool) : String :=
  "\n".intercalate
    (command.description ++
      ["", "TIP:", "    use -h for short docs and --help for long docs", "", "OPTIONS:"] ++
      (if long then longLines command.options else shortLines command.options))

end Command

/-- The help text for the choice of a command. -/
def generalHelp : String :=
  "\n".intercalate
    ["A tool for generating test strings from regular expressions.",
     "",
     "USAGE:",
     "    xeger-cli <command> ...",
     "",
     "COMMANDS:",
     "    check     Check whether patterns are good sources of test strings.",
     "    confound  Print strings that are unlikely to match patterns.",
     "    debug     Print how patterns were parsed.",
     "    generate  Print strings that match patterns."]

end PatternForge.CommandLine
