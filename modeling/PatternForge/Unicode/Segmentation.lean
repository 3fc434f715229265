import PatternForge.Unicode.BinaryProperty

/-!
The classes by which text is cut into graphemes, words and sentences. Each is a partition of the
characters; the classes are written by their short names, and `-` is the class of all the rest.
-/
namespace PatternForge.Unicode.Segmentation

/-- Runs of the grapheme cluster classes, composed Hangul syllables left out. -/
def graphemeRuns : List String :=
  ["0 CN A LF B CN D CR E CN 20 - 7F CN A0 - A9 undefined AA - AD CN AE undefined AF - 300 EX",
   "370 - 483 EX 48A - 591 EX 5BE - 5BF EX 5C0 - 5C1 EX 5C3 - 5C4 EX 5C6 - 5C7 EX 5C8 - 600 PP",
   "606 - 610 EX 61B - 61C CN 61D - 64B EX 660 - 670 EX 671 - 6D6 EX 6DD PP 6DE - 6DF EX 6E5 -",
   "6E7 EX 6E9 - 6EA EX 6EE - 70F PP 710 - 711 EX 712 - 730 EX 74B - 7A6 EX 7B1 - 7EB EX 7F4 -",
   "7FD EX 7FE - 816 EX 81A - 81B EX 824 - 825 EX 828 - 829 EX 82E - 859 EX 85C - 890 PP 892 -",
   "897 EX 8A0 - 8CA EX 8E2 PP 8E3 EX 903 SM 904 - 93A EX 93B SM 93C EX 93D - 93E SM 941 EX",
   "949 SM 94D EX 94E SM 950 - 951 EX 958 - 962 EX 964 - 981 EX 982 SM 984 - 9BC EX 9BD - 9BE",
   "EX 9BF SM 9C1 EX 9C5 - 9C7 SM 9C9 - 9CB SM 9CD EX 9CE - 9D7 EX 9D8 - 9E2 EX 9E4 - 9FE EX",
   "9FF - A01 EX A03 SM A04 - A3C EX A3D - A3E SM A41 EX A43 - A47 EX A49 - A4B EX A4E - A51",
   "EX A52 - A70 EX A72 - A75 EX A76 - A81 EX A83 SM A84 - ABC EX ABD - ABE SM AC1 EX AC6 -",
   "AC7 EX AC9 SM ACA - ACB SM ACD EX ACE - AE2 EX AE4 - AFA EX B00 - B01 EX B02 SM B04 - B3C",
   "EX B3D - B3E EX B40 SM B41 EX B45 - B47 SM B49 - B4B SM B4D EX B4E - B55 EX B58 - B62 EX",
   "B64 - B82 EX B83 - BBE EX BBF SM BC0 EX BC1 SM BC3 - BC6 SM BC9 - BCA SM BCD EX BCE - BD7",
   "EX BD8 - C00 EX C01 SM C04 EX C05 - C3C EX C3D - C3E EX C41 SM C45 - C46 EX C49 - C4A EX",
   "C4E - C55 EX C57 - C62 EX C64 - C81 EX C82 SM C84 - CBC EX CBD - CBE SM CBF EX CC1 SM CC2",
   "EX CC3 SM CC5 - CC6 EX CC9 - CCA EX CCE - CD5 EX CD7 - CE2 EX CE4 - CF3 SM CF4 - D00 EX",
   "D02 SM D04 - D3B EX D3D - D3E EX D3F SM D41 EX D45 - D46 SM D49 - D4A SM D4D EX D4E PP D4F",
   "- D57 EX D58 - D62 EX D64 - D81 EX D82 SM D84 - DCA EX DCB - DCF EX DD0 SM DD2 EX DD5 -",
   "DD6 EX DD7 - DD8 SM DDF EX DE0 - DF2 SM DF4 - E31 EX E32 - E33 SM E34 EX E3B - E47 EX E4F",
   "- EB1 EX EB2 - EB3 SM EB4 EX EBD - EC8 EX ECF - F18 EX F1A - F35 EX F36 - F37 EX F38 - F39",
   "EX F3A - F3E SM F40 - F71 EX F7F SM F80 EX F85 - F86 EX F88 - F8D EX F98 - F99 EX FBD -",
   "FC6 EX FC7 - 102D EX 1031 SM 1032 EX 1038 - 1039 EX 103B SM 103D EX 103F - 1056 SM 1058 EX",
   "105A - 105E EX 1061 - 1071 EX 1075 - 1082 EX 1083 - 1084 SM 1085 EX 1087 - 108D EX 108E -",
   "109D EX 109E - 1100 L 1160 V 11A8 T 1200 - 135D EX 1360 - 1712 EX 1716 - 1732 EX 1735 -",
   "1752 EX 1754 - 1772 EX 1774 - 17B4 EX 17B6 SM 17B7 EX 17BE SM 17C6 EX 17C7 SM 17C9 EX 17D4",
   "- 17DD EX 17DE - 180B EX 180E CN 180F EX 1810 - 1885 EX 1887 - 18A9 EX 18AA - 1920 EX 1923",
   "SM 1927 EX 1929 SM 192C - 1930 SM 1932 EX 1933 SM 1939 EX 193C - 1A17 EX 1A19 SM 1A1B EX",
   "1A1C - 1A55 SM 1A56 EX 1A57 SM 1A58 EX 1A5F - 1A60 EX 1A61 - 1A62 EX 1A63 - 1A65 EX 1A6D",
   "SM 1A73 EX 1A7D - 1A7F EX 1A80 - 1AB0 EX 1ACF - 1B00 EX 1B04 SM 1B05 - 1B34 EX 1B3E SM",
   "1B42 EX 1B45 - 1B6B EX 1B74 - 1B80 EX 1B82 SM 1B83 - 1BA1 SM 1BA2 EX 1BA6 SM 1BA8 EX 1BAE",
   "- 1BE6 EX 1BE7 SM 1BE8 EX 1BEA SM 1BED EX 1BEE SM 1BEF EX 1BF4 - 1C24 SM 1C2C EX 1C34 SM",
   "1C36 EX 1C38 - 1CD0 EX 1CD3 - 1CD4 EX 1CE1 SM 1CE2 EX 1CE9 - 1CED EX 1CEE - 1CF4 EX 1CF5 -",
   "1CF7 SM 1CF8 EX 1CFA - 1DC0 EX 1E00 - 200B CN 200C EX 200D ZWJ 200E CN 2010 - 2028 CN 202F",
   "- 203C undefined 203D - 2049 undefined 204A - 2060 CN 2070 - 20D0 EX 20F1 - 2122 undefined",
   "2123 - 2139 undefined 213A - 2194 undefined 219A - 21A9 undefined 21AB - 231A undefined",
   "231C - 2328 undefined 2329 - 2388 undefined 2389 - 23CF undefined 23D0 - 23E9 undefined",
   "23F4 - 23F8 undefined 23FB - 24C2 undefined 24C3 - 25AA undefined 25AC - 25B6 undefined",
   "25B7 - 25C0 undefined 25C1 - 25FB undefined 25FF - 2600 undefined 2606 - 2607 undefined",
   "2613 - 2614 undefined 2686 - 2690 undefined 2706 - 2708 undefined 2713 - 2714 undefined",
   "2715 - 2716 undefined 2717 - 271D undefined 271E - 2721 undefined 2722 - 2728 undefined",
   "2729 - 2733 undefined 2735 - 2744 undefined 2745 - 2747 undefined 2748 - 274C undefined",
   "274D - 274E undefined 274F - 2753 undefined 2756 - 2757 undefined 2758 - 2763 undefined",
   "2768 - 2795 undefined 2798 - 27A1 undefined 27A2 - 27B0 undefined 27B1 - 27BF undefined",
   "27C0 - 2934 undefined 2936 - 2B05 undefined 2B08 - 2B1B undefined 2B1D - 2B50 undefined",
   "2B51 - 2B55 undefined 2B56 - 2CEF EX 2CF2 - 2D7F EX 2D80 - 2DE0 EX 2E00 - 302A EX 3030",
   "undefined 3031 - 303D undefined 303E - 3099 EX 309B - 3297 undefined 3298 - 3299 undefined",
   "329A - A66F EX A673 - A674 EX A67E - A69E EX A6A0 - A6F0 EX A6F2 - A802 EX A803 - A806 EX",
   "A807 - A80B EX A80C - A823 SM A825 EX A827 SM A828 - A82C EX A82D - A880 SM A882 - A8B4 SM",
   "A8C4 EX A8C6 - A8E0 EX A8F2 - A8FF EX A900 - A926 EX A92E - A947 EX A952 SM A953 EX A954 -",
   "A960 L A97D - A980 EX A983 SM A984 - A9B3 EX A9B4 SM A9B6 EX A9BA SM A9BC EX A9BE SM A9C0",
   "EX A9C1 - A9E5 EX A9E6 - AA29 EX AA2F SM AA31 EX AA33 SM AA35 EX AA37 - AA43 EX AA44 -",
   "AA4C EX AA4D SM AA4E - AA7C EX AA7D - AAB0 EX AAB1 - AAB2 EX AAB5 - AAB7 EX AAB9 - AABE EX",
   "AAC0 - AAC1 EX AAC2 - AAEB SM AAEC EX AAEE SM AAF0 - AAF5 SM AAF6 EX AAF7 - ABE3 SM ABE5",
   "EX ABE6 SM ABE8 EX ABE9 SM ABEB - ABEC SM ABED EX ABEE - D7B0 V D7C7 - D7CB T D7FC - FB1E",
   "EX FB1F - FE00 EX FE10 - FE20 EX FE30 - FEFF CN FF00 - FF9E EX FFA0 - FFF0 CN FFFC - 101FD",
   "EX 101FE - 102E0 EX 102E1 - 10376 EX 1037B - 10A01 EX 10A04 - 10A05 EX 10A07 - 10A0C EX",
   "10A10 - 10A38 EX 10A3B - 10A3F EX 10A40 - 10AE5 EX 10AE7 - 10D24 EX 10D28 - 10D69 EX 10D6E",
   "- 10EAB EX 10EAD - 10EFC EX 10F00 - 10F46 EX 10F51 - 10F82 EX 10F86 - 11000 SM 11001 EX",
   "11002 SM 11003 - 11038 EX 11047 - 11070 EX 11071 - 11073 EX 11075 - 1107F EX 11082 SM",
   "11083 - 110B0 SM 110B3 EX 110B7 SM 110B9 EX 110BB - 110BD PP 110BE - 110C2 EX 110C3 -",
   "110CD PP 110CE - 11100 EX 11103 - 11127 EX 1112C SM 1112D EX 11135 - 11145 SM 11147 -",
   "11173 EX 11174 - 11180 EX 11182 SM 11183 - 111B3 SM 111B6 EX 111BF SM 111C0 EX 111C1 -",
   "111C2 PP 111C4 - 111C9 EX 111CD - 111CE SM 111CF EX 111D0 - 1122C SM 1122F EX 11232 SM",
   "11234 EX 11238 - 1123E EX 1123F - 11241 EX 11242 - 112DF EX 112E0 SM 112E3 EX 112EB -",
   "11300 EX 11302 SM 11304 - 1133B EX 1133D - 1133E EX 1133F SM 11340 EX 11341 SM 11345 -",
   "11347 SM 11349 - 1134B SM 1134D EX 1134E - 11357 EX 11358 - 11362 SM 11364 - 11366 EX",
   "1136D - 11370 EX 11375 - 113B8 EX 113B9 SM 113BB EX 113C1 - 113C2 EX 113C3 - 113C5 EX",
   "113C6 - 113C7 EX 113CA SM 113CB - 113CC SM 113CE EX 113D1 PP 113D2 EX 113D3 - 113E1 EX",
   "113E3 - 11435 SM 11438 EX 11440 SM 11442 EX 11445 SM 11446 EX 11447 - 1145E EX 1145F -",
   "114B0 EX 114B1 SM 114B3 EX 114B9 SM 114BA EX 114BB SM 114BD EX 114BE SM 114BF EX 114C1 SM",
   "114C2 EX 114C4 - 115AF EX 115B0 SM 115B2 EX 115B6 - 115B8 SM 115BC EX 115BE SM 115BF EX",
   "115C1 - 115DC EX 115DE - 11630 SM 11633 EX 1163B SM 1163D EX 1163E SM 1163F EX 11641 -",
   "116AB EX 116AC SM 116AD EX 116AE SM 116B0 EX 116B8 - 1171D EX 1171E SM 1171F EX 11720 -",
   "11722 EX 11726 SM 11727 EX 1172C - 1182C SM 1182F EX 11838 SM 11839 EX 1183B - 11930 EX",
   "11931 SM 11936 - 11937 SM 11939 - 1193B EX 1193F PP 11940 SM 11941 PP 11942 SM 11943 EX",
   "11944 - 119D1 SM 119D4 EX 119D8 - 119DA EX 119DC SM 119E0 EX 119E1 - 119E4 SM 119E5 -",
   "11A01 EX 11A0B - 11A33 EX 11A39 SM 11A3A PP 11A3B EX 11A3F - 11A47 EX 11A48 - 11A51 EX",
   "11A57 SM 11A59 EX 11A5C - 11A84 PP 11A8A EX 11A97 SM 11A98 EX 11A9A - 11C2F SM 11C30 EX",
   "11C37 - 11C38 EX 11C3E SM 11C3F EX 11C40 - 11C92 EX 11CA8 - 11CA9 SM 11CAA EX 11CB1 SM",
   "11CB2 EX 11CB4 SM 11CB5 EX 11CB7 - 11D31 EX 11D37 - 11D3A EX 11D3B - 11D3C EX 11D3E -",
   "11D3F EX 11D46 PP 11D47 EX 11D48 - 11D8A SM 11D8F - 11D90 EX 11D92 - 11D93 SM 11D95 EX",
   "11D96 SM 11D97 EX 11D98 - 11EF3 EX 11EF5 SM 11EF7 - 11F00 EX 11F02 PP 11F03 SM 11F04 -",
   "11F34 SM 11F36 EX 11F3B - 11F3E SM 11F40 EX 11F43 - 11F5A EX 11F5B - 13430 CN 13440 EX",
   "13441 - 13447 EX 13456 - 1611E EX 1612A SM 1612D EX 16130 - 16AF0 EX 16AF5 - 16B30 EX",
   "16B37 - 16D63 V 16D64 - 16D67 V 16D6B - 16F4F EX 16F50 - 16F51 SM 16F88 - 16F8F EX 16F93 -",
   "16FE4 EX 16FE5 - 16FF0 EX 16FF2 - 1BC9D EX 1BC9F - 1BCA0 CN 1BCA4 - 1CF00 EX 1CF2E - 1CF30",
   "EX 1CF47 - 1D165 EX 1D16A - 1D16D EX 1D173 CN 1D17B EX 1D183 - 1D185 EX 1D18C - 1D1AA EX",
   "1D1AE - 1D242 EX 1D245 - 1DA00 EX 1DA37 - 1DA3B EX 1DA6D - 1DA75 EX 1DA76 - 1DA84 EX 1DA85",
   "- 1DA9B EX 1DAA0 - 1DAA1 EX 1DAB0 - 1E000 EX 1E007 - 1E008 EX 1E019 - 1E01B EX 1E022 -",
   "1E023 EX 1E025 - 1E026 EX 1E02B - 1E08F EX 1E090 - 1E130 EX 1E137 - 1E2AE EX 1E2AF - 1E2EC",
   "EX 1E2F0 - 1E4EC EX 1E4F0 - 1E5EE EX 1E5F0 - 1E8D0 EX 1E8D7 - 1E944 EX 1E94B - 1F000",
   "undefined 1F100 - 1F10D undefined 1F110 - 1F12F undefined 1F130 - 1F16C undefined 1F172 -",
   "1F17E undefined 1F180 - 1F18E undefined 1F18F - 1F191 undefined 1F19B - 1F1AD undefined",
   "1F1E6 RI 1F200 - 1F201 undefined 1F210 - 1F21A undefined 1F21B - 1F22F undefined 1F230 -",
   "1F232 undefined 1F23B - 1F23C undefined 1F240 - 1F249 undefined 1F3FB EX 1F400 undefined",
   "1F53E - 1F546 undefined 1F650 - 1F680 undefined 1F700 - 1F774 undefined 1F780 - 1F7D5",
   "undefined 1F800 - 1F80C undefined 1F810 - 1F848 undefined 1F850 - 1F85A undefined 1F860 -",
   "1F888 undefined 1F890 - 1F8AE undefined 1F900 - 1F90C undefined 1F93B - 1F93C undefined",
   "1F946 - 1F947 undefined 1FB00 - 1FC00 undefined 1FFFE - E0000 CN E0020 EX E0080 CN E0100",
   "EX E01F0 CN E1000 -"]

/-- Runs of the word classes. -/
def wordRuns : List String :=
  ["A LF B NL D CR E - 20 WSegSpace 21 - 22 DQ 23 - 27 SQ 28 - 2C MN 2D - 2E MB 2F - 30 NU 3A",
   "ML 3B MN 3C - 41 LE 5B - 5F EX 60 - 61 LE 7B - 85 NL 86 - A9 undefined AA LE AB - AD FO AE",
   "undefined AF - B5 LE B6 - B7 ML B8 - BA LE BB - C0 LE D7 - D8 LE F7 - F8 LE 2D8 - 2DE LE",
   "300 Extend 370 LE 375 - 376 LE 378 - 37A LE 37E MN 37F LE 380 - 386 LE 387 ML 388 LE 38B -",
   "38C LE 38D - 38E LE 3A2 - 3A3 LE 3F6 - 3F7 LE 482 - 483 Extend 48A LE 530 - 531 LE 557 -",
   "559 LE 55D - 55E LE 55F ML 560 LE 589 MN 58A LE 58B - 591 Extend 5BE - 5BF Extend 5C0 -",
   "5C1 Extend 5C3 - 5C4 Extend 5C6 - 5C7 Extend 5C8 - 5D0 HL 5EB - 5EF HL 5F3 LE 5F4 ML 5F5 -",
   "600 FO 606 - 60C MN 60E - 610 Extend 61B - 61C FO 61D - 620 LE 64B Extend 660 NU 66A - 66B",
   "NU 66C MN 66D - 66E LE 670 Extend 671 LE 6D4 - 6D5 LE 6D6 Extend 6DD FO 6DE - 6DF Extend",
   "6E5 LE 6E7 Extend 6E9 - 6EA Extend 6EE LE 6F0 NU 6FA LE 6FD - 6FF LE 700 - 70F FO 710 LE",
   "711 Extend 712 LE 730 Extend 74B - 74D LE 7A6 Extend 7B1 LE 7B2 - 7C0 NU 7CA LE 7EB Extend",
   "7F4 LE 7F6 - 7F8 MN 7F9 - 7FA LE 7FB - 7FD Extend 7FE - 800 LE 816 Extend 81A LE 81B",
   "Extend 824 LE 825 Extend 828 LE 829 Extend 82E - 840 LE 859 Extend 85C - 860 LE 86B - 870",
   "LE 888 - 889 LE 88F - 890 FO 892 - 897 Extend 8A0 LE 8CA Extend 8E2 FO 8E3 Extend 904 LE",
   "93A Extend 93D LE 93E Extend 950 LE 951 Extend 958 LE 962 Extend 964 - 966 NU 970 - 971 LE",
   "981 Extend 984 - 985 LE 98D - 98F LE 991 - 993 LE 9A9 - 9AA LE 9B1 - 9B2 LE 9B3 - 9B6 LE",
   "9BA - 9BC Extend 9BD LE 9BE Extend 9C5 - 9C7 Extend 9C9 - 9CB Extend 9CE LE 9CF - 9D7",
   "Extend 9D8 - 9DC LE 9DE - 9DF LE 9E2 Extend 9E4 - 9E6 NU 9F0 LE 9F2 - 9FC LE 9FD - 9FE",
   "Extend 9FF - A01 Extend A04 - A05 LE A0B - A0F LE A11 - A13 LE A29 - A2A LE A31 - A32 LE",
   "A34 - A35 LE A37 - A38 LE A3A - A3C Extend A3D - A3E Extend A43 - A47 Extend A49 - A4B",
   "Extend A4E - A51 Extend A52 - A59 LE A5D - A5E LE A5F - A66 NU A70 Extend A72 LE A75",
   "Extend A76 - A81 Extend A84 - A85 LE A8E - A8F LE A92 - A93 LE AA9 - AAA LE AB1 - AB2 LE",
   "AB4 - AB5 LE ABA - ABC Extend ABD LE ABE Extend AC6 - AC7 Extend ACA - ACB Extend ACE -",
   "AD0 LE AD1 - AE0 LE AE2 Extend AE4 - AE6 NU AF0 - AF9 LE AFA Extend B00 - B01 Extend B04 -",
   "B05 LE B0D - B0F LE B11 - B13 LE B29 - B2A LE B31 - B32 LE B34 - B35 LE B3A - B3C Extend",
   "B3D LE B3E Extend B45 - B47 Extend B49 - B4B Extend B4E - B55 Extend B58 - B5C LE B5E -",
   "B5F LE B62 Extend B64 - B66 NU B70 - B71 LE B72 - B82 Extend B83 LE B84 - B85 LE B8B - B8E",
   "LE B91 - B92 LE B96 - B99 LE B9B - B9C LE B9D - B9E LE BA0 - BA3 LE BA5 - BA8 LE BAB - BAE",
   "LE BBA - BBE Extend BC3 - BC6 Extend BC9 - BCA Extend BCE - BD0 LE BD1 - BD7 Extend BD8 -",
   "BE6 NU BF0 - C00 Extend C05 LE C0D - C0E LE C11 - C12 LE C29 - C2A LE C3A - C3C Extend C3D",
   "LE C3E Extend C45 - C46 Extend C49 - C4A Extend C4E - C55 Extend C57 - C58 LE C5B - C5D LE",
   "C5E - C60 LE C62 Extend C64 - C66 NU C70 - C80 LE C81 Extend C84 - C85 LE C8D - C8E LE C91",
   "- C92 LE CA9 - CAA LE CB4 - CB5 LE CBA - CBC Extend CBD LE CBE Extend CC5 - CC6 Extend CC9",
   "- CCA Extend CCE - CD5 Extend CD7 - CDD LE CDF - CE0 LE CE2 Extend CE4 - CE6 NU CF0 - CF1",
   "LE CF3 Extend CF4 - D00 Extend D04 LE D0D - D0E LE D11 - D12 LE D3B Extend D3D LE D3E",
   "Extend D45 - D46 Extend D49 - D4A Extend D4E LE D4F - D54 LE D57 Extend D58 - D5F LE D62",
   "Extend D64 - D66 NU D70 - D7A LE D80 - D81 Extend D84 - D85 LE D97 - D9A LE DB2 - DB3 LE",
   "DBC - DBD LE DBE - DC0 LE DC7 - DCA Extend DCB - DCF Extend DD5 - DD6 Extend DD7 - DD8",
   "Extend DE0 - DE6 NU DF0 - DF2 Extend DF4 - E31 Extend E32 - E34 Extend E3B - E47 Extend",
   "E4F - E50 NU E5A - EB1 Extend EB2 - EB4 Extend EBD - EC8 Extend ECF - ED0 NU EDA - F00 LE",
   "F01 - F18 Extend F1A - F20 NU F2A - F35 Extend F36 - F37 Extend F38 - F39 Extend F3A - F3E",
   "Extend F40 LE F48 - F49 LE F6D - F71 Extend F85 - F86 Extend F88 LE F8D Extend F98 - F99",
   "Extend FBD - FC6 Extend FC7 - 102B Extend 103F - 1040 NU 104A - 1056 Extend 105A - 105E",
   "Extend 1061 - 1062 Extend 1065 - 1067 Extend 106E - 1071 Extend 1075 - 1082 Extend 108E -",
   "108F Extend 1090 NU 109A Extend 109E - 10A0 LE 10C6 - 10C7 LE 10C8 - 10CD LE 10CE - 10D0",
   "LE 10FB - 10FC LE 1249 - 124A LE 124E - 1250 LE 1257 - 1258 LE 1259 - 125A LE 125E - 1260",
   "LE 1289 - 128A LE 128E - 1290 LE 12B1 - 12B2 LE 12B6 - 12B8 LE 12BF - 12C0 LE 12C1 - 12C2",
   "LE 12C6 - 12C8 LE 12D7 - 12D8 LE 1311 - 1312 LE 1316 - 1318 LE 135B - 135D Extend 1360 -",
   "1380 LE 1390 - 13A0 LE 13F6 - 13F8 LE 13FE - 1401 LE 166D - 166F LE 1680 WSegSpace 1681 LE",
   "169B - 16A0 LE 16EB - 16EE LE 16F9 - 1700 LE 1712 Extend 1716 - 171F LE 1732 Extend 1735 -",
   "1740 LE 1752 Extend 1754 - 1760 LE 176D - 176E LE 1771 - 1772 Extend 1774 - 17B4 Extend",
   "17D4 - 17DD Extend 17DE - 17E0 NU 17EA - 180B Extend 180E FO 180F Extend 1810 NU 181A -",
   "1820 LE 1879 - 1880 LE 1885 Extend 1887 LE 18A9 Extend 18AA LE 18AB - 18B0 LE 18F6 - 1900",
   "LE 191F - 1920 Extend 192C - 1930 Extend 193C - 1946 NU 1950 - 19D0 NU 19DA - 1A00 LE 1A17",
   "Extend 1A1C - 1A55 Extend 1A5F - 1A60 Extend 1A7D - 1A7F Extend 1A80 NU 1A8A - 1A90 NU",
   "1A9A - 1AB0 Extend 1ACF - 1B00 Extend 1B05 LE 1B34 Extend 1B45 LE 1B4D - 1B50 NU 1B5A -",
   "1B6B Extend 1B74 - 1B80 Extend 1B83 LE 1BA1 Extend 1BAE LE 1BB0 NU 1BBA LE 1BE6 Extend",
   "1BF4 - 1C00 LE 1C24 Extend 1C38 - 1C40 NU 1C4A - 1C4D LE 1C50 NU 1C5A LE 1C7E - 1C80 LE",
   "1C8B - 1C90 LE 1CBB - 1CBD LE 1CC0 - 1CD0 Extend 1CD3 - 1CD4 Extend 1CE9 LE 1CED Extend",
   "1CEE LE 1CF4 Extend 1CF5 LE 1CF7 Extend 1CFA LE 1CFB - 1D00 LE 1DC0 Extend 1E00 LE 1F16 -",
   "1F18 LE 1F1E - 1F20 LE 1F46 - 1F48 LE 1F4E - 1F50 LE 1F58 - 1F59 LE 1F5A - 1F5B LE 1F5C -",
   "1F5D LE 1F5E - 1F5F LE 1F7E - 1F80 LE 1FB5 - 1FB6 LE 1FBD - 1FBE LE 1FBF - 1FC2 LE 1FC5 -",
   "1FC6 LE 1FCD - 1FD0 LE 1FD4 - 1FD6 LE 1FDC - 1FE0 LE 1FED - 1FF2 LE 1FF5 - 1FF6 LE 1FFD -",
   "2000 WSegSpace 2007 - 2008 WSegSpace 200B - 200C Extend 200D ZWJ 200E FO 2010 - 2018 MB",
   "201A - 2024 MB 2025 - 2027 ML 2028 NL 202A FO 202F EX 2030 - 203C undefined 203D - 203F EX",
   "2041 - 2044 MN 2045 - 2049 undefined 204A - 2054 EX 2055 - 205F WSegSpace 2060 FO 2065 -",
   "2066 FO 2070 - 2071 LE 2072 - 207F LE 2080 - 2090 LE 209D - 20D0 Extend 20F1 - 2102 LE",
   "2103 - 2107 LE 2108 - 210A LE 2114 - 2115 LE 2116 - 2119 LE 211E - 2122 undefined 2123 -",
   "2124 LE 2125 - 2126 LE 2127 - 2128 LE 2129 - 212A LE 212E - 212F LE 2139 undefined 213A -",
   "213C LE 2140 - 2145 LE 214A - 214E LE 214F - 2160 LE 2189 - 2194 undefined 219A - 21A9",
   "undefined 21AB - 231A undefined 231C - 2328 undefined 2329 - 2388 undefined 2389 - 23CF",
   "undefined 23D0 - 23E9 undefined 23F4 - 23F8 undefined 23FB - 24B6 LE 24C2 undefined 24C3",
   "LE 24EA - 25AA undefined 25AC - 25B6 undefined 25B7 - 25C0 undefined 25C1 - 25FB undefined",
   "25FF - 2600 undefined 2606 - 2607 undefined 2613 - 2614 undefined 2686 - 2690 undefined",
   "2706 - 2708 undefined 2713 - 2714 undefined 2715 - 2716 undefined 2717 - 271D undefined",
   "271E - 2721 undefined 2722 - 2728 undefined 2729 - 2733 undefined 2735 - 2744 undefined",
   "2745 - 2747 undefined 2748 - 274C undefined 274D - 274E undefined 274F - 2753 undefined",
   "2756 - 2757 undefined 2758 - 2763 undefined 2768 - 2795 undefined 2798 - 27A1 undefined",
   "27A2 - 27B0 undefined 27B1 - 27BF undefined 27C0 - 2934 undefined 2936 - 2B05 undefined",
   "2B08 - 2B1B undefined 2B1D - 2B50 undefined 2B51 - 2B55 undefined 2B56 - 2C00 LE 2CE5 -",
   "2CEB LE 2CEF Extend 2CF2 LE 2CF4 - 2D00 LE 2D26 - 2D27 LE 2D28 - 2D2D LE 2D2E - 2D30 LE",
   "2D68 - 2D6F LE 2D70 - 2D7F Extend 2D80 LE 2D97 - 2DA0 LE 2DA7 - 2DA8 LE 2DAF - 2DB0 LE",
   "2DB7 - 2DB8 LE 2DBF - 2DC0 LE 2DC7 - 2DC8 LE 2DCF - 2DD0 LE 2DD7 - 2DD8 LE 2DDF - 2DE0",
   "Extend 2E00 - 2E2F LE 2E30 - 3000 WSegSpace 3001 - 3005 LE 3006 - 302A Extend 3030",
   "undefined 3031 KA 3036 - 303B LE 303D undefined 303E - 3099 Extend 309B KA 309D - 30A0 KA",
   "30FB - 30FC KA 3100 - 3105 LE 3130 - 3131 LE 318F - 31A0 LE 31C0 - 31F0 KA 3200 - 3297",
   "undefined 3298 - 3299 undefined 329A - 32D0 KA 32FF - 3300 KA 3358 - A000 LE A48D - A4D0",
   "LE A4FE - A500 LE A60D - A610 LE A620 NU A62A LE A62C - A640 LE A66F Extend A673 - A674",
   "Extend A67E - A67F LE A69E Extend A6A0 LE A6F0 Extend A6F2 - A708 LE A7CE - A7D0 LE A7D2 -",
   "A7D3 LE A7D4 - A7D5 LE A7DD - A7F2 LE A802 Extend A803 LE A806 Extend A807 LE A80B Extend",
   "A80C LE A823 Extend A828 - A82C Extend A82D - A840 LE A874 - A880 Extend A882 LE A8B4",
   "Extend A8C6 - A8D0 NU A8DA - A8E0 Extend A8F2 LE A8F8 - A8FB LE A8FC - A8FD LE A8FF Extend",
   "A900 NU A90A LE A926 Extend A92E - A930 LE A947 Extend A954 - A960 LE A97D - A980 Extend",
   "A984 LE A9B3 Extend A9C1 - A9CF LE A9D0 NU A9DA - A9E5 Extend A9E6 - A9F0 NU A9FA - AA00",
   "LE AA29 Extend AA37 - AA40 LE AA43 Extend AA44 LE AA4C Extend AA4E - AA50 NU AA5A - AA7B",
   "Extend AA7E - AAB0 Extend AAB1 - AAB2 Extend AAB5 - AAB7 Extend AAB9 - AABE Extend AAC0 -",
   "AAC1 Extend AAC2 - AAE0 LE AAEB Extend AAF0 - AAF2 LE AAF5 Extend AAF7 - AB01 LE AB07 -",
   "AB09 LE AB0F - AB11 LE AB17 - AB20 LE AB27 - AB28 LE AB2F - AB30 LE AB6A - AB70 LE ABE3",
   "Extend ABEB - ABEC Extend ABEE - ABF0 NU ABFA - AC00 LE D7A4 - D7B0 LE D7C7 - D7CB LE D7FC",
   "- FB00 LE FB07 - FB13 LE FB18 - FB1D HL FB1E Extend FB1F HL FB29 - FB2A HL FB37 - FB38 HL",
   "FB3D - FB3E HL FB3F - FB40 HL FB42 - FB43 HL FB45 - FB46 HL FB50 LE FBB2 - FBD3 LE FD3E -",
   "FD50 LE FD90 - FD92 LE FDC8 - FDF0 LE FDFC - FE00 Extend FE10 MN FE11 - FE13 ML FE14 MN",
   "FE15 - FE20 Extend FE30 - FE33 EX FE35 - FE4D EX FE50 MN FE51 - FE52 MB FE53 - FE54 MN",
   "FE55 ML FE56 - FE70 LE FE75 - FE76 LE FEFD - FEFF FO FF00 - FF07 MB FF08 - FF0C MN FF0D -",
   "FF0E MB FF0F - FF10 NU FF1A ML FF1B MN FF1C - FF21 LE FF3B - FF3F EX FF40 - FF41 LE FF5B -",
   "FF66 KA FF9E Extend FFA0 LE FFBF - FFC2 LE FFC8 - FFCA LE FFD0 - FFD2 LE FFD8 - FFDA LE",
   "FFDD - FFF9 FO FFFC - 10000 LE 1000C - 1000D LE 10027 - 10028 LE 1003B - 1003C LE 1003E -",
   "1003F LE 1004E - 10050 LE 1005E - 10080 LE 100FB - 10140 LE 10175 - 101FD Extend 101FE -",
   "10280 LE 1029D - 102A0 LE 102D1 - 102E0 Extend 102E1 - 10300 LE 10320 - 1032D LE 1034B -",
   "10350 LE 10376 Extend 1037B - 10380 LE 1039E - 103A0 LE 103C4 - 103C8 LE 103D0 - 103D1 LE",
   "103D6 - 10400 LE 1049E - 104A0 NU 104AA - 104B0 LE 104D4 - 104D8 LE 104FC - 10500 LE 10528",
   "- 10530 LE 10564 - 10570 LE 1057B - 1057C LE 1058B - 1058C LE 10593 - 10594 LE 10596 -",
   "10597 LE 105A2 - 105A3 LE 105B2 - 105B3 LE 105BA - 105BB LE 105BD - 105C0 LE 105F4 - 10600",
   "LE 10737 - 10740 LE 10756 - 10760 LE 10768 - 10780 LE 10786 - 10787 LE 107B1 - 107B2 LE",
   "107BB - 10800 LE 10806 - 10808 LE 10809 - 1080A LE 10836 - 10837 LE 10839 - 1083C LE 1083D",
   "- 1083F LE 10856 - 10860 LE 10877 - 10880 LE 1089F - 108E0 LE 108F3 - 108F4 LE 108F6 -",
   "10900 LE 10916 - 10920 LE 1093A - 10980 LE 109B8 - 109BE LE 109C0 - 10A00 LE 10A01 Extend",
   "10A04 - 10A05 Extend 10A07 - 10A0C Extend 10A10 LE 10A14 - 10A15 LE 10A18 - 10A19 LE 10A36",
   "- 10A38 Extend 10A3B - 10A3F Extend 10A40 - 10A60 LE 10A7D - 10A80 LE 10A9D - 10AC0 LE",
   "10AC8 - 10AC9 LE 10AE5 Extend 10AE7 - 10B00 LE 10B36 - 10B40 LE 10B56 - 10B60 LE 10B73 -",
   "10B80 LE 10B92 - 10C00 LE 10C49 - 10C80 LE 10CB3 - 10CC0 LE 10CF3 - 10D00 LE 10D24 Extend",
   "10D28 - 10D30 NU 10D3A - 10D40 NU 10D4A LE 10D66 - 10D69 Extend 10D6E - 10D6F LE 10D86 -",
   "10E80 LE 10EAA - 10EAB Extend 10EAD - 10EB0 LE 10EB2 - 10EC2 LE 10EC5 - 10EFC Extend 10F00",
   "LE 10F1D - 10F27 LE 10F28 - 10F30 LE 10F46 Extend 10F51 - 10F70 LE 10F82 Extend 10F86 -",
   "10FB0 LE 10FC5 - 10FE0 LE 10FF7 - 11000 Extend 11003 LE 11038 Extend 11047 - 11066 NU",
   "11070 Extend 11071 LE 11073 Extend 11075 LE 11076 - 1107F Extend 11083 LE 110B0 Extend",
   "110BB - 110BD FO 110BE - 110C2 Extend 110C3 - 110CD FO 110CE - 110D0 LE 110E9 - 110F0 NU",
   "110FA - 11100 Extend 11103 LE 11127 Extend 11135 - 11136 NU 11140 - 11144 LE 11145 Extend",
   "11147 LE 11148 - 11150 LE 11173 Extend 11174 - 11176 LE 11177 - 11180 Extend 11183 LE",
   "111B3 Extend 111C1 LE 111C5 - 111C9 Extend 111CD - 111CE Extend 111D0 NU 111DA LE 111DB -",
   "111DC LE 111DD - 11200 LE 11212 - 11213 LE 1122C Extend 11238 - 1123E Extend 1123F LE",
   "11241 Extend 11242 - 11280 LE 11287 - 11288 LE 11289 - 1128A LE 1128E - 1128F LE 1129E -",
   "1129F LE 112A9 - 112B0 LE 112DF Extend 112EB - 112F0 NU 112FA - 11300 Extend 11304 - 11305",
   "LE 1130D - 1130F LE 11311 - 11313 LE 11329 - 1132A LE 11331 - 11332 LE 11334 - 11335 LE",
   "1133A - 1133B Extend 1133D LE 1133E Extend 11345 - 11347 Extend 11349 - 1134B Extend 1134E",
   "- 11350 LE 11351 - 11357 Extend 11358 - 1135D LE 11362 Extend 11364 - 11366 Extend 1136D -",
   "11370 Extend 11375 - 11380 LE 1138A - 1138B LE 1138C - 1138E LE 1138F - 11390 LE 113B6 -",
   "113B7 LE 113B8 Extend 113C1 - 113C2 Extend 113C3 - 113C5 Extend 113C6 - 113C7 Extend 113CB",
   "- 113CC Extend 113D1 LE 113D2 Extend 113D3 LE 113D4 - 113E1 Extend 113E3 - 11400 LE 11435",
   "Extend 11447 LE 1144B - 11450 NU 1145A - 1145E Extend 1145F LE 11462 - 11480 LE 114B0",
   "Extend 114C4 LE 114C6 - 114C7 LE 114C8 - 114D0 NU 114DA - 11580 LE 115AF Extend 115B6 -",
   "115B8 Extend 115C1 - 115D8 LE 115DC Extend 115DE - 11600 LE 11630 Extend 11641 - 11644 LE",
   "11645 - 11650 NU 1165A - 11680 LE 116AB Extend 116B8 LE 116B9 - 116C0 NU 116CA - 116D0 NU",
   "116E4 - 1171D Extend 1172C - 11730 NU 1173A - 11800 LE 1182C Extend 1183B - 118A0 LE 118E0",
   "NU 118EA - 118FF LE 11907 - 11909 LE 1190A - 1190C LE 11914 - 11915 LE 11917 - 11918 LE",
   "11930 Extend 11936 - 11937 Extend 11939 - 1193B Extend 1193F LE 11940 Extend 11941 LE",
   "11942 Extend 11944 - 11950 NU 1195A - 119A0 LE 119A8 - 119AA LE 119D1 Extend 119D8 - 119DA",
   "Extend 119E1 LE 119E2 - 119E3 LE 119E4 Extend 119E5 - 11A00 LE 11A01 Extend 11A0B LE 11A33",
   "Extend 11A3A LE 11A3B Extend 11A3F - 11A47 Extend 11A48 - 11A50 LE 11A51 Extend 11A5C LE",
   "11A8A Extend 11A9A - 11A9D LE 11A9E - 11AB0 LE 11AF9 - 11BC0 LE 11BE1 - 11BF0 NU 11BFA -",
   "11C00 LE 11C09 - 11C0A LE 11C2F Extend 11C37 - 11C38 Extend 11C40 LE 11C41 - 11C50 NU",
   "11C5A - 11C72 LE 11C90 - 11C92 Extend 11CA8 - 11CA9 Extend 11CB7 - 11D00 LE 11D07 - 11D08",
   "LE 11D0A - 11D0B LE 11D31 Extend 11D37 - 11D3A Extend 11D3B - 11D3C Extend 11D3E - 11D3F",
   "Extend 11D46 LE 11D47 Extend 11D48 - 11D50 NU 11D5A - 11D60 LE 11D66 - 11D67 LE 11D69 -",
   "11D6A LE 11D8A Extend 11D8F - 11D90 Extend 11D92 - 11D93 Extend 11D98 LE 11D99 - 11DA0 NU",
   "11DAA - 11EE0 LE 11EF3 Extend 11EF7 - 11F00 Extend 11F02 LE 11F03 Extend 11F04 LE 11F11 -",
   "11F12 LE 11F34 Extend 11F3B - 11F3E Extend 11F43 - 11F50 NU 11F5A Extend 11F5B - 11FB0 LE",
   "11FB1 - 12000 LE 1239A - 12400 LE 1246F - 12480 LE 12544 - 12F90 LE 12FF1 - 13000 LE 13430",
   "FO 13440 Extend 13441 LE 13447 Extend 13456 - 13460 LE 143FB - 14400 LE 14647 - 16100 LE",
   "1611E Extend 16130 NU 1613A - 16800 LE 16A39 - 16A40 LE 16A5F - 16A60 NU 16A6A - 16A70 LE",
   "16ABF - 16AC0 NU 16ACA - 16AD0 LE 16AEE - 16AF0 Extend 16AF5 - 16B00 LE 16B30 Extend 16B37",
   "- 16B40 LE 16B44 - 16B50 NU 16B5A - 16B63 LE 16B78 - 16B7D LE 16B90 - 16D40 LE 16D6D -",
   "16D70 NU 16D7A - 16E40 LE 16E80 - 16F00 LE 16F4B - 16F4F Extend 16F50 LE 16F51 Extend",
   "16F88 - 16F8F Extend 16F93 LE 16FA0 - 16FE0 LE 16FE2 - 16FE3 LE 16FE4 Extend 16FE5 - 16FF0",
   "Extend 16FF2 - 1AFF0 KA 1AFF4 - 1AFF5 KA 1AFFC - 1AFFD KA 1AFFF - 1B000 KA 1B001 - 1B120",
   "KA 1B123 - 1B155 KA 1B156 - 1B164 KA 1B168 - 1BC00 LE 1BC6B - 1BC70 LE 1BC7D - 1BC80 LE",
   "1BC89 - 1BC90 LE 1BC9A - 1BC9D Extend 1BC9F - 1BCA0 FO 1BCA4 - 1CCF0 NU 1CCFA - 1CF00",
   "Extend 1CF2E - 1CF30 Extend 1CF47 - 1D165 Extend 1D16A - 1D16D Extend 1D173 FO 1D17B",
   "Extend 1D183 - 1D185 Extend 1D18C - 1D1AA Extend 1D1AE - 1D242 Extend 1D245 - 1D400 LE",
   "1D455 - 1D456 LE 1D49D - 1D49E LE 1D4A0 - 1D4A2 LE 1D4A3 - 1D4A5 LE 1D4A7 - 1D4A9 LE 1D4AD",
   "- 1D4AE LE 1D4BA - 1D4BB LE 1D4BC - 1D4BD LE 1D4C4 - 1D4C5 LE 1D506 - 1D507 LE 1D50B -",
   "1D50D LE 1D515 - 1D516 LE 1D51D - 1D51E LE 1D53A - 1D53B LE 1D53F - 1D540 LE 1D545 - 1D546",
   "LE 1D547 - 1D54A LE 1D551 - 1D552 LE 1D6A6 - 1D6A8 LE 1D6C1 - 1D6C2 LE 1D6DB - 1D6DC LE",
   "1D6FB - 1D6FC LE 1D715 - 1D716 LE 1D735 - 1D736 LE 1D74F - 1D750 LE 1D76F - 1D770 LE 1D789",
   "- 1D78A LE 1D7A9 - 1D7AA LE 1D7C3 - 1D7C4 LE 1D7CC - 1D7CE NU 1D800 - 1DA00 Extend 1DA37 -",
   "1DA3B Extend 1DA6D - 1DA75 Extend 1DA76 - 1DA84 Extend 1DA85 - 1DA9B Extend 1DAA0 - 1DAA1",
   "Extend 1DAB0 - 1DF00 LE 1DF1F - 1DF25 LE 1DF2B - 1E000 Extend 1E007 - 1E008 Extend 1E019 -",
   "1E01B Extend 1E022 - 1E023 Extend 1E025 - 1E026 Extend 1E02B - 1E030 LE 1E06E - 1E08F",
   "Extend 1E090 - 1E100 LE 1E12D - 1E130 Extend 1E137 LE 1E13E - 1E140 NU 1E14A - 1E14E LE",
   "1E14F - 1E290 LE 1E2AE Extend 1E2AF - 1E2C0 LE 1E2EC Extend 1E2F0 NU 1E2FA - 1E4D0 LE",
   "1E4EC Extend 1E4F0 NU 1E4FA - 1E5D0 LE 1E5EE Extend 1E5F0 LE 1E5F1 NU 1E5FB - 1E7E0 LE",
   "1E7E7 - 1E7E8 LE 1E7EC - 1E7ED LE 1E7EF - 1E7F0 LE 1E7FF - 1E800 LE 1E8C5 - 1E8D0 Extend",
   "1E8D7 - 1E900 LE 1E944 Extend 1E94B LE 1E94C - 1E950 NU 1E95A - 1EE00 LE 1EE04 - 1EE05 LE",
   "1EE20 - 1EE21 LE 1EE23 - 1EE24 LE 1EE25 - 1EE27 LE 1EE28 - 1EE29 LE 1EE33 - 1EE34 LE 1EE38",
   "- 1EE39 LE 1EE3A - 1EE3B LE 1EE3C - 1EE42 LE 1EE43 - 1EE47 LE 1EE48 - 1EE49 LE 1EE4A -",
   "1EE4B LE 1EE4C - 1EE4D LE 1EE50 - 1EE51 LE 1EE53 - 1EE54 LE 1EE55 - 1EE57 LE 1EE58 - 1EE59",
   "LE 1EE5A - 1EE5B LE 1EE5C - 1EE5D LE 1EE5E - 1EE5F LE 1EE60 - 1EE61 LE 1EE63 - 1EE64 LE",
   "1EE65 - 1EE67 LE 1EE6B - 1EE6C LE 1EE73 - 1EE74 LE 1EE78 - 1EE79 LE 1EE7D - 1EE7E LE 1EE7F",
   "- 1EE80 LE 1EE8A - 1EE8B LE 1EE9C - 1EEA1 LE 1EEA4 - 1EEA5 LE 1EEAA - 1EEAB LE 1EEBC -",
   "1F000 undefined 1F100 - 1F10D undefined 1F110 - 1F12F undefined 1F130 LE 1F14A - 1F150 LE",
   "1F16A - 1F16C undefined 1F172 LE 1F17E undefined 1F180 LE 1F18A - 1F18E undefined 1F18F -",
   "1F191 undefined 1F19B - 1F1AD undefined 1F1E6 RI 1F200 - 1F201 undefined 1F210 - 1F21A",
   "undefined 1F21B - 1F22F undefined 1F230 - 1F232 undefined 1F23B - 1F23C undefined 1F240 -",
   "1F249 undefined 1F3FB Extend 1F400 undefined 1F53E - 1F546 undefined 1F650 - 1F680",
   "undefined 1F700 - 1F774 undefined 1F780 - 1F7D5 undefined 1F800 - 1F80C undefined 1F810 -",
   "1F848 undefined 1F850 - 1F85A undefined 1F860 - 1F888 undefined 1F890 - 1F8AE undefined",
   "1F900 - 1F90C undefined 1F93B - 1F93C undefined 1F946 - 1F947 undefined 1FB00 - 1FBF0 NU",
   "1FBFA - 1FC00 undefined 1FFFE - E0001 FO E0002 - E0020 Extend E0080 - E0100 Extend E01F0 -"]

/-- Runs of the sentence classes, apart from the letters whose class follows from their case. `XX`
is a letter that nevertheless belongs to no class. -/
def sentenceRuns : List String :=
  ["9 SP A LF B SP D CR E - 20 SP 21 ST 22 CL 23 - 27 CL 2A - 2C SC 2E AT 2F - 30 NU 3A SC 3B",
   "- 3F ST 40 - 5B CL 5C - 5D CL 5E - 7B CL 7C - 7D CL 7E - 85 SE 86 - A0 SP A1 - AB CL AC -",
   "AD FO AE - BB CL BC - 300 EX 370 - 483 EX 48A - 55D SC 55E - 589 ST 58A - 591 EX 5BE - 5BF",
   "EX 5C0 - 5C1 EX 5C3 - 5C4 EX 5C6 - 5C7 EX 5C8 - 5F3 LE 5F4 - 600 FO 606 - 60C SC 60E - 610",
   "EX 61B - 61C FO 61D ST 620 - 64B EX 660 NU 66A - 66B NU 66D - 670 EX 671 - 6D4 ST 6D5 -",
   "6D6 EX 6DD FO 6DE - 6DF EX 6E5 - 6E7 EX 6E9 - 6EA EX 6EE - 6F0 NU 6FA - 700 ST 703 - 70F",
   "FO 710 - 711 EX 712 - 730 EX 74B - 7A6 EX 7B1 - 7C0 NU 7CA - 7EB EX 7F4 - 7F8 SC 7F9 ST",
   "7FA - 7FD EX 7FE - 816 EX 81A - 81B EX 824 - 825 EX 828 - 829 EX 82E - 837 ST 838 - 839 ST",
   "83A - 83D ST 83F - 859 EX 85C - 890 FO 892 - 897 EX 8A0 - 8CA EX 8E2 FO 8E3 EX 904 - 93A",
   "EX 93D - 93E EX 950 - 951 EX 958 - 962 EX 964 ST 966 NU 970 - 981 EX 984 - 9BC EX 9BD -",
   "9BE EX 9C5 - 9C7 EX 9C9 - 9CB EX 9CE - 9D7 EX 9D8 - 9E2 EX 9E4 - 9E6 NU 9F0 - 9FE EX 9FF -",
   "A01 EX A04 - A3C EX A3D - A3E EX A43 - A47 EX A49 - A4B EX A4E - A51 EX A52 - A66 NU A70",
   "EX A72 - A75 EX A76 - A81 EX A84 - ABC EX ABD - ABE EX AC6 - AC7 EX ACA - ACB EX ACE - AE2",
   "EX AE4 - AE6 NU AF0 - AFA EX B00 - B01 EX B04 - B3C EX B3D - B3E EX B45 - B47 EX B49 - B4B",
   "EX B4E - B55 EX B58 - B62 EX B64 - B66 NU B70 - B82 EX B83 - BBE EX BC3 - BC6 EX BC9 - BCA",
   "EX BCE - BD7 EX BD8 - BE6 NU BF0 - C00 EX C05 - C3C EX C3D - C3E EX C45 - C46 EX C49 - C4A",
   "EX C4E - C55 EX C57 - C62 EX C64 - C66 NU C70 - C81 EX C84 - CBC EX CBD - CBE EX CC5 - CC6",
   "EX CC9 - CCA EX CCE - CD5 EX CD7 - CE2 EX CE4 - CE6 NU CF0 - CF3 EX CF4 - D00 EX D04 - D3B",
   "EX D3D - D3E EX D45 - D46 EX D49 - D4A EX D4E - D57 EX D58 - D62 EX D64 - D66 NU D70 - D81",
   "EX D84 - DCA EX DCB - DCF EX DD5 - DD6 EX DD7 - DD8 EX DE0 - DE6 NU DF0 - DF2 EX DF4 - E31",
   "EX E32 - E34 EX E3B - E47 EX E4F - E50 NU E5A - EB1 EX EB2 - EB4 EX EBD - EC8 EX ECF - ED0",
   "NU EDA - F18 EX F1A - F20 NU F2A - F35 EX F36 - F37 EX F38 - F39 EX F3A CL F3E EX F40 -",
   "F71 EX F85 - F86 EX F88 - F8D EX F98 - F99 EX FBD - FC6 EX FC7 - 102B EX 103F - 1040 NU",
   "104A ST 104C - 1056 EX 105A - 105E EX 1061 - 1062 EX 1065 - 1067 EX 106E - 1071 EX 1075 -",
   "1082 EX 108E - 108F EX 1090 NU 109A EX 109E - 10D0 LE 10FB - 10FD LE 1100 - 135D EX 1360 -",
   "1362 ST 1363 - 1367 ST 1369 - 166E ST 166F - 1680 SP 1681 - 169B CL 169D - 1712 EX 1716 -",
   "1732 EX 1735 ST 1737 - 1752 EX 1754 - 1772 EX 1774 - 17B4 EX 17D4 ST 17D6 - 17DD EX 17DE -",
   "17E0 NU 17EA - 1802 SC 1803 ST 1804 - 1808 SC 1809 ST 180A - 180B EX 180E FO 180F EX 1810",
   "NU 181A - 1885 EX 1887 - 18A9 EX 18AA - 1920 EX 192C - 1930 EX 193C - 1944 ST 1946 NU 1950",
   "- 19D0 NU 19DA - 1A17 EX 1A1C - 1A55 EX 1A5F - 1A60 EX 1A7D - 1A7F EX 1A80 NU 1A8A - 1A90",
   "NU 1A9A - 1AA8 ST 1AAC - 1AB0 EX 1ACF - 1B00 EX 1B05 - 1B34 EX 1B45 - 1B4E ST 1B50 NU 1B5A",
   "ST 1B5C - 1B5E ST 1B60 - 1B6B EX 1B74 - 1B7D ST 1B80 EX 1B83 - 1BA1 EX 1BAE - 1BB0 NU 1BBA",
   "- 1BE6 EX 1BF4 - 1C24 EX 1C38 - 1C3B ST 1C3D - 1C40 NU 1C4A - 1C50 NU 1C5A - 1C7E ST 1C80",
   "- 1C90 LE 1CBB - 1CBD LE 1CC0 - 1CD0 EX 1CD3 - 1CD4 EX 1CE9 - 1CED EX 1CEE - 1CF4 EX 1CF5",
   "- 1CF7 EX 1CFA - 1DC0 EX 1E00 - 2000 SP 200B FO 200C EX 200E FO 2010 - 2013 SC 2015 - 2018",
   "CL 2020 - 2024 AT 2025 - 2028 SE 202A FO 202F SP 2030 - 2039 CL 203B - 203C ST 203E - 2045",
   "CL 2047 ST 204A - 205F SP 2060 FO 2065 - 2066 FO 2070 - 207D CL 207F - 208D CL 208F - 20D0",
   "EX 20F1 - 2308 CL 230C - 2329 CL 232B - 275B CL 2761 - 2768 CL 2776 - 27C5 CL 27C7 - 27E6",
   "CL 27F0 - 2983 CL 2999 - 29D8 CL 29DC - 29FC CL 29FE - 2CEF EX 2CF2 - 2CF9 ST 2CFC - 2D7F",
   "EX 2D80 - 2DE0 EX 2E00 CL 2E0E - 2E1C CL 2E1E - 2E20 CL 2E2A - 2E2E ST 2E2F - 2E3C ST 2E3D",
   "- 2E42 CL 2E43 - 2E53 ST 2E55 CL 2E5D - 3000 SP 3001 SC 3002 ST 3003 - 3008 CL 3012 - 3014",
   "CL 301C - 301D CL 3020 - 302A EX 3030 - 3099 EX 309B - A4FF ST A500 - A60E ST A610 - A620",
   "NU A62A - A66F EX A673 - A674 EX A67E - A69E EX A6A0 - A6F0 EX A6F2 - A6F3 ST A6F4 - A6F7",
   "ST A6F8 - A802 EX A803 - A806 EX A807 - A80B EX A80C - A823 EX A828 - A82C EX A82D - A876",
   "ST A878 - A880 EX A882 - A8B4 EX A8C6 - A8CE ST A8D0 NU A8DA - A8E0 EX A8F2 - A8FF EX A900",
   "NU A90A - A926 EX A92E - A92F ST A930 - A947 EX A954 - A980 EX A984 - A9B3 EX A9C1 - A9C8",
   "ST A9CA - A9D0 NU A9DA - A9E5 EX A9E6 - A9F0 NU A9FA - AA29 EX AA37 - AA43 EX AA44 - AA4C",
   "EX AA4E - AA50 NU AA5A - AA5D ST AA60 - AA7B EX AA7E - AAB0 EX AAB1 - AAB2 EX AAB5 - AAB7",
   "EX AAB9 - AABE EX AAC0 - AAC1 EX AAC2 - AAEB EX AAF0 ST AAF2 - AAF5 EX AAF7 - ABE3 EX ABEB",
   "ST ABEC EX ABEE - ABF0 NU ABFA - FB1E EX FB1F - FD3E CL FD40 - FE00 EX FE10 SC FE12 ST",
   "FE13 SC FE14 - FE15 ST FE17 CL FE19 - FE20 EX FE30 - FE31 SC FE33 - FE35 CL FE45 - FE47 CL",
   "FE49 - FE50 SC FE52 AT FE53 - FE55 SC FE56 ST FE58 SC FE59 CL FE5F - FE63 SC FE64 - FEFF",
   "FO FF00 - FF01 ST FF02 - FF08 CL FF0A - FF0C SC FF0E AT FF0F - FF10 NU FF1A SC FF1B - FF1F",
   "ST FF20 - FF3B CL FF3C - FF3D CL FF3E - FF5B CL FF5C - FF5D CL FF5E - FF5F CL FF61 ST FF62",
   "CL FF64 SC FF65 - FF9E EX FFA0 - FFF9 FO FFFC - 101FD EX 101FE - 102E0 EX 102E1 - 10376 EX",
   "1037B - 104A0 NU 104AA - 10A01 EX 10A04 - 10A05 EX 10A07 - 10A0C EX 10A10 - 10A38 EX 10A3B",
   "- 10A3F EX 10A40 - 10A56 ST 10A58 - 10AE5 EX 10AE7 - 10D24 EX 10D28 - 10D30 NU 10D3A -",
   "10D40 NU 10D4A - 10D69 EX 10D6E - 10EAB EX 10EAD - 10EFC EX 10F00 - 10F46 EX 10F51 - 10F55",
   "ST 10F5A - 10F82 EX 10F86 ST 10F8A - 11000 EX 11003 - 11038 EX 11047 ST 11049 - 11066 NU",
   "11070 EX 11071 - 11073 EX 11075 - 1107F EX 11083 - 110B0 EX 110BB - 110BD FO 110BE ST",
   "110C2 EX 110C3 - 110CD FO 110CE - 110F0 NU 110FA - 11100 EX 11103 - 11127 EX 11135 - 11136",
   "NU 11140 - 11141 ST 11144 - 11145 EX 11147 - 11173 EX 11174 - 11180 EX 11183 - 111B3 EX",
   "111C1 - 111C5 ST 111C7 - 111C9 EX 111CD ST 111CE EX 111D0 NU 111DA - 111DE ST 111E0 -",
   "1122C EX 11238 ST 1123A - 1123B ST 1123D - 1123E EX 1123F - 11241 EX 11242 - 112A9 ST",
   "112AA - 112DF EX 112EB - 112F0 NU 112FA - 11300 EX 11304 - 1133B EX 1133D - 1133E EX 11345",
   "- 11347 EX 11349 - 1134B EX 1134E - 11357 EX 11358 - 11362 EX 11364 - 11366 EX 1136D -",
   "11370 EX 11375 - 113B8 EX 113C1 - 113C2 EX 113C3 - 113C5 EX 113C6 - 113C7 EX 113CB - 113CC",
   "EX 113D1 - 113D2 EX 113D3 - 113D4 ST 113D6 - 113E1 EX 113E3 - 11435 EX 11447 - 1144B ST",
   "1144D - 11450 NU 1145A - 1145E EX 1145F - 114B0 EX 114C4 - 114D0 NU 114DA - 115AF EX 115B6",
   "- 115B8 EX 115C1 - 115C2 ST 115C4 - 115C9 ST 115D8 - 115DC EX 115DE - 11630 EX 11641 ST",
   "11643 - 11650 NU 1165A - 116AB EX 116B8 - 116C0 NU 116CA - 116D0 NU 116E4 - 1171D EX 1172C",
   "- 11730 NU 1173A - 1173C ST 1173F - 1182C EX 1183B - 118E0 NU 118EA - 11930 EX 11936 -",
   "11937 EX 11939 - 1193B EX 1193F - 11940 EX 11941 - 11942 EX 11944 ST 11945 - 11946 ST",
   "11947 - 11950 NU 1195A - 119D1 EX 119D8 - 119DA EX 119E1 - 119E4 EX 119E5 - 11A01 EX 11A0B",
   "- 11A33 EX 11A3A - 11A3B EX 11A3F - 11A42 ST 11A44 - 11A47 EX 11A48 - 11A51 EX 11A5C -",
   "11A8A EX 11A9A - 11A9B ST 11A9D - 11BF0 NU 11BFA - 11C2F EX 11C37 - 11C38 EX 11C40 - 11C41",
   "ST 11C43 - 11C50 NU 11C5A - 11C92 EX 11CA8 - 11CA9 EX 11CB7 - 11D31 EX 11D37 - 11D3A EX",
   "11D3B - 11D3C EX 11D3E - 11D3F EX 11D46 - 11D47 EX 11D48 - 11D50 NU 11D5A - 11D8A EX 11D8F",
   "- 11D90 EX 11D92 - 11D93 EX 11D98 - 11DA0 NU 11DAA - 11EF3 EX 11EF7 ST 11EF9 - 11F00 EX",
   "11F02 - 11F03 EX 11F04 - 11F34 EX 11F3B - 11F3E EX 11F43 ST 11F45 - 11F50 NU 11F5A EX",
   "11F5B - 13430 FO 13440 EX 13441 - 13447 EX 13456 - 1611E EX 16130 NU 1613A - 16A60 NU",
   "16A6A - 16A6E ST 16A70 - 16AC0 NU 16ACA - 16AF0 EX 16AF5 ST 16AF6 - 16B30 EX 16B37 ST",
   "16B39 - 16B44 ST 16B45 - 16B50 NU 16B5A - 16D6E ST 16D70 NU 16D7A - 16E98 ST 16E99 - 16F4F",
   "EX 16F50 - 16F51 EX 16F88 - 16F8F EX 16F93 - 16FE4 EX 16FE5 - 16FF0 EX 16FF2 - 1BC9D EX",
   "1BC9F ST 1BCA0 FO 1BCA4 - 1CCF0 NU 1CCFA - 1CF00 EX 1CF2E - 1CF30 EX 1CF47 - 1D165 EX",
   "1D16A - 1D16D EX 1D173 FO 1D17B EX 1D183 - 1D185 EX 1D18C - 1D1AA EX 1D1AE - 1D242 EX",
   "1D245 - 1D7CE NU 1D800 - 1DA00 EX 1DA37 - 1DA3B EX 1DA6D - 1DA75 EX 1DA76 - 1DA84 EX 1DA85",
   "- 1DA88 ST 1DA89 - 1DA9B EX 1DAA0 - 1DAA1 EX 1DAB0 - 1E000 EX 1E007 - 1E008 EX 1E019 -",
   "1E01B EX 1E022 - 1E023 EX 1E025 - 1E026 EX 1E02B - 1E08F EX 1E090 - 1E130 EX 1E137 - 1E140",
   "NU 1E14A - 1E2AE EX 1E2AF - 1E2EC EX 1E2F0 NU 1E2FA - 1E4EC EX 1E4F0 NU 1E4FA - 1E5EE EX",
   "1E5F0 - 1E5F1 NU 1E5FB - 1E8D0 EX 1E8D7 - 1E944 EX 1E94B - 1E950 NU 1E95A - 1F676 CL 1F679",
   "- 1FBF0 NU 1FBFA - E0001 FO E0002 - E0020 EX E0080 - E0100 EX E01F0 -"]

/-- The decoded grapheme table. -/
def graphemeTable : RunTable String := RunTable.ofText "-" id graphemeRuns

/-- The decoded word table. -/
def wordTable : RunTable String := RunTable.ofText "-" id wordRuns

/-- The decoded sentence table. -/
def sentenceTable : RunTable String := RunTable.ofText "-" id sentenceRuns

/-- The grapheme cluster class. Composed Hangul syllables lie in blocks of 28, the first of which
has no final consonant. -/
def grapheme (c : Char) : String :=
  let code := c.toNat
  if 0xAC00 ≤ code ∧ code ≤ 0xD7A3 then
    if (code - 0xAC00) % 28 = 0 then "LV" else "LVT"
  else graphemeTable.lookup code

/-- The word class. -/
def word (c : Char) : String := wordTable.lookup c.toNat

/-- The sentence class. -/
def sentence (c : Char) : String :=
  match sentenceTable.lookup c.toNat with
  | "-" =>
    if BinaryProperty.lowercase c then "LO"
    else if GeneralCategory.ofChar c = .Lt || BinaryProperty.uppercase c then "UP"
    else if BinaryProperty.alphabetic c then "LE"
    else "-"
  | code => code

/-- Names of the grapheme cluster classes that have members. -/
def graphemeNames : List (String × String) :=
  [("cn", "CN"), ("control", "CN"), ("cr", "CR"), ("ex", "EX"), ("extend", "EX"), ("l", "L"),
   ("lf", "LF"), ("lv", "LV"), ("lvt", "LVT"), ("pp", "PP"), ("prepend", "PP"), ("ri", "RI"),
   ("regionalindicator", "RI"), ("sm", "SM"), ("spacingmark", "SM"), ("t", "T"), ("v", "V"),
   ("zwj", "ZWJ")]

/-- Names of the word classes that have members. -/
def wordNames : List (String × String) :=
  [("cr", "CR"), ("dq", "DQ"), ("doublequote", "DQ"), ("ex", "EX"), ("extendnumlet", "EX"),
   ("extend", "Extend"), ("fo", "FO"), ("format", "FO"), ("hl", "HL"), ("hebrewletter", "HL"),
   ("ka", "KA"), ("katakana", "KA"), ("le", "LE"), ("aletter", "LE"), ("lf", "LF"), ("mb", "MB"),
   ("midnumlet", "MB"), ("ml", "ML"), ("midletter", "ML"), ("mn", "MN"), ("midnum", "MN"),
   ("nl", "NL"), ("newline", "NL"), ("nu", "NU"), ("numeric", "NU"), ("ri", "RI"),
   ("regionalindicator", "RI"), ("sq", "SQ"), ("singlequote", "SQ"), ("wsegspace", "WSegSpace"),
   ("zwj", "ZWJ")]

/-- Names of the sentence classes that have members. -/
def sentenceNames : List (String × String) :=
  [("at", "AT"), ("aterm", "AT"), ("cl", "CL"), ("close", "CL"), ("cr", "CR"), ("ex", "EX"),
   ("extend", "EX"), ("fo", "FO"), ("format", "FO"), ("le", "LE"), ("oletter", "LE"),
   ("lf", "LF"), ("lo", "LO"), ("lower", "LO"), ("nu", "NU"), ("numeric", "NU"), ("sc", "SC"),
   ("scontinue", "SC"), ("se", "SE"), ("sep", "SE"), ("sp", "SP"), ("st", "ST"), ("sterm", "ST"),
   ("up", "UP"), ("upper", "UP")]

/-- The code of the class with the given normalised name. -/
def named? (names : List (String × String)) (name : String) : Option String :=
  (names.find? fun entry => entry.1 = name).map (·.2)

end PatternForge.Unicode.Segmentation
