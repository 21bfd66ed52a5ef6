/-
Upper and lower case.

The case of a character outside ASCII is data of the Unicode standard: three tables give the full
mappings to upper, lower and title case, and two sets tell which characters have a case and which
are passed over when the end of a word is looked for.

An entry `distance:n,n,…` of a table gives the distance to the character before, and what the
character is mapped to.  In an entry `distance+more:n` the characters that follow are mapped to those
that follow `n`, as many as it says; in an entry `distance*more:n` the same is true of every second
character.  The tables hold Latin, Greek, Cyrillic, Georgian and Cherokee letters, numerals, ligatures
and letters in a circle or of full width.
-/
import QualityGate.Text.RangeTable
import Std.Data.HashMap

namespace QualityGate.Text

namespace Case

def upperText : String :=
  "181:924 42:83,83 1+22:192 2+6:216 1:376 2*23:256 2:73 2*2:306 3*7:313 1:700,78 2*22:330 3*2:377
  1:83 1:579 3*1:386 3:391 4:395 6:401 3:502 4:408 1:573 4:544 3*2:416 3:423 5:428 3:431 4*1:435
  3:440 4:444 2:503 6:452 1:452 2:455 1:455 2:458 1:458 2*7:461 1:398 2*8:478 1:74,780 2:497
  1:497 2:500 4*19:504 4*8:546 9:571 3+1:11390 2:577 5*4:582 290*1:880 4:886 4+2:1021
  19:921,776,769 28:902 1+2:904 1:933,776,769 1+16:913 1:931 1+8:931 1:908 1+1:910 2:914 1:920
  4:934 1:928 1:975 2*11:984 1:922 1:929 1:1017 1:895 2:917 3:1015 3:1018 53+31:1040 1+15:1024
  2*16:1120 10*26:1162 3*6:1217 1:1216 2*47:1232 2977+42:7312 3+2:7357 761+5:5104 2564*74:7680
  1:72,817 1:84,776 1:87,778 1:89,778 1:65,702 1:7776 6*47:7840 625+15:8544 849+25:9398
  34439+79:5024 20289:70,70 1:70,73 1:70,76 1:70,70,73 1:70,70,76 1:83,84 1:83,84 1083+25:65313"

def lowerText : String :=
  "192+22:224 2+6:248 34*23:257 2:105,775 2*2:307 3*7:314 3*22:331 2:255 1*2:378 4:595 1*1:387
  2:596 1:392 2+1:598 1:396 3:477 1:601 1:603 1:402 2:608 1:611 2:617 1:616 1:409 4:623 1:626
  2:629 1*2:417 2:640 1:424 2:643 3:429 2:648 1:432 2+1:650 1*1:436 2:658 1:441 4:445 8:454 1:454
  2:457 1:457 2:460 1*8:460 3*8:479 3:499 1*1:499 2:405 1:447 1*19:505 2:414 2*8:547 8:11365
  1:572 2:410 1:11366 3:578 2:384 1:649 1:652 1*4:583 290*1:881 4:887 9:1011 7:940 2+2:941 2:972
  2+1:973 2+16:945 3+7:964 36:983 9*11:985 6:952 3:1016 2:1010 1:1019 3+2:891 1+15:1104 1+31:1072
  49*16:1121 10*26:1163 2:1231 1*6:1218 3*47:1233 3698+79:43888 1+5:5112 2203+42:4304 3+2:4349
  321*74:7681 10:223 2*47:7841 610+15:8560 839+25:9424 55890+25:65345"

/-- The mappings to title case that are not those to upper case. -/
def titleText : String :=
  "223:83,115 229:453 1:453 1:453 1:456 1:456 1:456 1:459 1:459 1:459 37:498 1:498 1:498
  3805+42:4304 3+2:4349 59905:70,102 1:70,105 1:70,108 1:70,102,105 1:70,102,108 1:83,116
  1:83,116"

/-- The mappings of an entry behind the character `last`, from the last one to the first. -/
def mappingsOf (last : Nat) (entry : String) : List (Nat × List Char) :=
  let runOf (by_ : Nat) : List Nat → List (Nat × List Char)
    | [d, more, n] =>
      (List.range (more + 1)).reverse.map fun i => (last + d + by_ * i, [Char.ofNat (n + by_ * i)])
    | _ => []
  let ns := RangeTable.numbers entry
  if entry.contains '+' then runOf 1 ns
  else if entry.contains '*' then runOf 2 ns
  else
    match ns with
    | d :: ns => [(last + d, ns.map Char.ofNat)]
    | [] => []

def mappings (s : String) : List (Nat × List Char) :=
  (s.splitOn " ").foldl (fun done entry =>
    mappingsOf ((done.head?.map (·.1)).getD 0) entry ++ done) []

def upperMap : Std.HashMap Nat (List Char) := Std.HashMap.ofList (mappings upperText)

def lowerMap : Std.HashMap Nat (List Char) := Std.HashMap.ofList (mappings lowerText)

def titleMap : Std.HashMap Nat (List Char) := upperMap.insertMany (mappings titleText)

def casedTable : RangeTable := RangeTable.ofDistances
  "rJ6J`1:1415G1O1+2`144+2m1T+2S42224116113111D1+191+1r8+2B+X@[23+96+1<26+Ma[23+4H+3R+8@P+;8e*06EL+
  16*03e<7+>>J6J"

/-- The characters that are passed over when the end of a word is looked for. -/
def ignorableTable : RangeTable := RangeTable.ofDistances
  "W161;1S111x141114122+6l+2]42419211+3M7+2l151b^11*01@x582:12125b51:*0:JT@+3A1*0;QU5"

def isCased (c : Char) : Bool := casedTable.contains c.toNat

/-- Is a character passed over when the end of a word is looked for? -/
def isIgnorable (c : Char) : Bool := ignorableTable.contains c.toNat

def upperChar (c : Char) : List Char :=
  if c.toNat < 128 then [c.toUpper] else (upperMap.get? c.toNat).getD [c]

def titleChar (c : Char) : List Char :=
  if c.toNat < 128 then [c.toUpper] else (titleMap.get? c.toNat).getD [c]

/-- Is a cased character the next one, those passed over apart? -/
def nextIsCased (cs : List Char) : Bool :=
  match cs.dropWhile isIgnorable with
  | [] => false
  | c :: _ => isCased c

/-- A character in lower case between what stands before it, last first, and what follows.  The
sigma at the end of a word has a form of its own. -/
def lowerChar (before : List Char) (c : Char) (after : List Char) : List Char :=
  if c.toNat < 128 then [c.toLower]
  else if c.toNat = 0x3A3 then
    [if nextIsCased before && !nextIsCased after then Char.ofNat 0x3C2 else Char.ofNat 0x3C3]
  else (lowerMap.get? c.toNat).getD [c]

def lowerFrom (before : List Char) : List Char → List Char
  | [] => []
  | c :: cs => lowerChar before c cs ++ lowerFrom (c :: before) cs

/-- The rest of a text in title case; `inWord` tells whether a cased character stands before. -/
def titleFrom (inWord : Bool) (before : List Char) : List Char → List Char
  | [] => []
  | c :: cs =>
    (if inWord then lowerChar before c cs else titleChar c) ++
      titleFrom (isCased c) (c :: before) cs

end Case

def upper (s : String) : String := String.ofList (s.toList.flatMap Case.upperChar)

def lower (s : String) : String := String.ofList (Case.lowerFrom [] s.toList)

/-- A text in which every word starts with a capital. -/
def title (s : String) : String := String.ofList (Case.titleFrom false [] s.toList)

end QualityGate.Text
