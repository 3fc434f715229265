import PatternForge.Matching.Search.Plan

/-!
The backtracking engine. A thread is a place in the text with the groups so far and the goals that
are still to be met; the machine works on one thread and keeps the others, where a choice went the
other way, on a stack. When a goal fails, the machine goes back to the latest choice. It gives up
when it has gone back a million times, or when a million choices are open.
-/
namespace PatternForge.Search

/-- What a thread still has to do. -/
inductive Goal where
  /-- Carry out a plan from here. -/
  | meet (plan : Plan)
  /-- End a group here. -/
  | leave (index : Nat)
  /-- Go round a repetition that has been round `count` times. -/
  | again (number : Nat) (guarded : Bool) (least : Nat) (most : Option Nat) (greedy : Bool)
    (body : Plan) (count : Nat)
  /-- Go back so many characters. -/
  | stepBack (distance : Nat)
  /-- Go on from an earlier place. -/
  | resume (place : Nat)
  /-- Forget all choices that were made since the latest height was noted. -/
  | commit
  /-- Forget all choices but the first so many, and fail. -/
  | refuse (height : Nat)

/-- A way to go on. -/
structure Thread where
  /-- The number of characters before the place. -/
  place : Nat
  /-- What the groups hold. -/
  captures : Captures := {}
  /-- For guarded repetitions the place where the latest round started that could have been left
  out. It stays when the repetition is over. -/
  roundStarts : List (Nat × Nat) := []
  /-- Heights of the stack of choices, latest first. -/
  heights : List Nat := []
  /-- What is still to be met, in order. -/
  goals : List Goal

/-- The thread at work, the choices left open, and how often the machine has gone back. -/
structure State where
  thread : Thread
  choices : List Thread := []
  height : Nat := 0
  retreats : Nat := 0

/-- What a step, or the whole search, comes to. -/
inductive Outcome where
  | working (st : State)
  | matched
  | exhausted
  | gaveUp

/-- How often the machine goes back before it gives up. -/
def retreatLimit : Nat := 1000000

/-- How many choices may be open. -/
def heightLimit : Nat := 1000000

/-- How many steps the machine takes before it gives up. -/
def stepLimit : Nat := 1 <<< 40

namespace State

/-- Goes back to the latest choice. -/
def retreat (st : State) : Outcome :=
  match st.choices with
  | [] => .exhausted
  | thread :: choices =>
    if retreatLimit ≤ st.retreats then .gaveUp
    else .working { thread, choices, height := st.height - 1, retreats := st.retreats + 1 }

/-- Goes on with another thread. -/
def goOn (st : State) (thread : Thread) : Outcome := .working { st with thread }

/-- Goes on with one thread and leaves another for later. -/
def fork (st : State) (first second : Thread) : Outcome :=
  if heightLimit ≤ st.height then .gaveUp
  else
    .working { st with
      thread := first, choices := second :: st.choices, height := st.height + 1 }

/-- Forgets all choices but the first `height`. -/
def cut (st : State) (height : Nat) : State :=
  { st with choices := st.choices.drop (st.height - height), height := min st.height height }

end State

/-- Goes round a repetition, or on behind it. -/
def goRound (st : State) (thread : Thread) (number : Nat) (guarded : Bool) (least : Nat)
    (most : Option Nat) (greedy : Bool) (body : Plan) (count : Nat) : Outcome :=
  let round (thread : Thread) : Thread :=
    { thread with
      goals :=
        .meet body :: .again number guarded least most greedy body (count + 1) :: thread.goals }
  if guarded && 0 < count && thread.roundStarts.lookup number = some thread.place then st.retreat
  else if most = some count then st.goOn thread
  else if count < least then st.goOn (round thread)
  else
    let thread :=
      if guarded then
        { thread with roundStarts := keepPlace thread.roundStarts number thread.place }
      else thread
    if greedy then st.fork (round thread) thread else st.fork thread (round thread)

/-- Looks for a body from so many characters back. -/
def meetAround (st : State) (thread : Thread) (wanted : Bool) (back : Nat) (body : Plan) :
    Outcome :=
  if wanted then
    st.goOn { thread with
      goals := .stepBack back :: .meet body :: .resume thread.place :: thread.goals }
  else
    st.fork
      { thread with goals := .stepBack back :: .meet body :: .refuse st.height :: thread.goals }
      thread

/-- Carries out a plan. -/
def meet (text : Array Char) (st : State) (thread : Thread) (plan : Plan) : Outcome :=
  match plan with
  | .one allows =>
    match text[thread.place]? with
    | some c => if allows c then st.goOn { thread with place := thread.place + 1 } else st.retreat
    | none => st.retreat
  | .look holds => if holds (.at text thread.place) then st.goOn thread else st.retreat
  | .piece groups automaton =>
    match automaton.first? text thread.place (thread.captures.forget groups) with
    | some way => st.goOn { thread with place := way.place, captures := way.captures }
    | none => st.retreat
  | .sequence items => st.goOn { thread with goals := items.map .meet ++ thread.goals }
  | .choice [] => st.retreat
  | .choice [branch] => st.goOn { thread with goals := .meet branch :: thread.goals }
  | .choice (branch :: others) =>
    st.fork { thread with goals := .meet branch :: thread.goals }
      { thread with goals := .meet (.choice others) :: thread.goals }
  | .repeated number guarded least most greedy body =>
    goRound st thread number guarded least most greedy body 0
  | .group index body =>
    st.goOn { thread with
      captures := thread.captures.enter index thread.place
      goals := .meet body :: .leave index :: thread.goals }
  | .reference index =>
    match thread.captures.text? text index with
    | some chars =>
      if text.extract thread.place (thread.place + chars.size) = chars then
        st.goOn { thread with place := thread.place + chars.size }
      else st.retreat
    | none => st.retreat
  | .around wanted back body => meetAround st thread wanted back body
  | .atomic body =>
    st.goOn { thread with
      heights := st.height :: thread.heights
      goals := .meet body :: .commit :: thread.goals }
  | .entered index => if thread.captures.hasEntered index then st.goOn thread else st.retreat
  | .conditional condition yes no =>
    let heights := st.height :: thread.heights
    st.fork
      { thread with heights, goals := .meet condition :: .commit :: .meet yes :: thread.goals }
      { thread with heights, goals := .meet no :: thread.goals }

/-- Works on the first goal of the thread. -/
def step (text : Array Char) (st : State) : Outcome :=
  let thread := st.thread
  match thread.goals with
  | [] => .matched
  | goal :: goals =>
    let thread := { thread with goals }
    match goal with
    | .meet plan => meet text st thread plan
    | .leave index => st.goOn { thread with captures := thread.captures.leave index thread.place }
    | .again number guarded least most greedy body count =>
      goRound st thread number guarded least most greedy body count
    | .stepBack distance =>
      if thread.place < distance then st.retreat
      else st.goOn { thread with place := thread.place - distance }
    | .resume place => st.goOn { thread with place }
    | .commit =>
      match thread.heights with
      | height :: heights => (st.cut height).goOn { thread with heights }
      | [] => st.goOn thread
    | .refuse height => (st.cut height).retreat

/-- Takes steps until the search is decided. -/
def run (text : Array Char) : Nat → State → Outcome
  | 0, _ => .gaveUp
  | fuel + 1, st =>
    match step text st with
    | .working st' => run text fuel st'
    | outcome => outcome

/-- The plan to look for a match anywhere in a text: characters may be skipped first. -/
def anywhere (plan : Plan) : Plan :=
  .sequence [.repeated 0 false 0 none false (.one fun _ => true), .group 0 plan]

/-- Searches a text for a match. -/
def search (plan : Plan) (text : List Char) : Outcome :=
  run text.toArray stepLimit { thread := { place := 0, goals := [.meet (anywhere plan)] } }

end PatternForge.Search
