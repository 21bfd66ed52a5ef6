/-
Blanks, digits and word characters.
-/
import QualityGate.Text.RangeTable

namespace QualityGate.Text

def blankTable : RangeTable := RangeTable.ofDistances
  "95>5+1J1J1*011b1+Pp;M251`1+g41"

def isBlank (c : Char) : Bool := blankTable.contains c.toNat

def digitTable : RangeTable := RangeTable.ofDistances
  "a:+ED:+1m:+2c:+5Z:+1]:+1]:+1]:+1]:+1]:+1]:+1]:+1]:+1]:+1F:+1]:w:+3i:w:+I<:V:+44:+1g:+2B:6:+2R:+1
  <:+1m:6:*06P_:+9<:V:+2c:F:+1<:+5T:*03rP:+C8:+MT:+:y:+1g:m:+1w:+3i:+4_:+1]:+54:+1L:+1L:+5e:+1L:+:
  B:+3H:w:*03[L:+1<:+1m:*055>c+P0:+5e:+Eu:+qF:"

def isDecimal (c : Char) : Bool := digitTable.contains c.toNat

/-- The letters and digits beyond ASCII. -/
def wordTable : RangeTable := RangeTable.ofDistances
  "+2F1721132131G1O1+6>4<>57111+1h51224116113111D1+191+1r8+2B1V216YxK44^[E:421+1I11?27?21@11NM+1?;1
  >[92415F419131GI7;5H16AZkg31B17:4:1@48222F17113431@1=2134<262186422F17121212O4117:23@9131F171215
  31B1?24:91;8222F17121531N2134:17;116331432111232333<F1E=B8131G1@31J321224:871148131G1:1531O2124:
  12A9131Y21@1531:4C165B3H191127O:Aa12<79:W211151H111:129125119:24P1OD<81TK5+1Y[D;66443132734=<11:
  6V11512[1+4U142711142Y142Q142711142?1j142t>D3@@+1<263+8L2A1J5+113;7B=C>B>=13?eS1413:6:F:6+1?752R
  115w:OWX25;]4J6;UG9f[:6:=1+1C`A83:YN=iJTL:3b297[23Y41612315+2]q+3i262V26281111111O2f171133173426
  4=5317+1Y2265;6=+1K1412:1135611111141;2455411k+9mm+14F+8VN+?F+376432912V11512i71@G97171717171717
  17+161+6I3I975254+1<631+1@145[1+1D34:Pa@P:N81?P:W?+4H*01?6q*043Ot_2+3`3LD`@O2+16W92+1M2q521115H@
  13141G=6:e>cL:H631121V:GIM7`L;651I1YG3184:6G313c1132252111H32;73<6262697171[1>6+1Y=:6*022y<G4b*0
  1X@+4w2+1PV7<5511:1=151112121+1RQ+4tBq2gX<+1Z51+1nC:7J6J;+1?36262623S<1J1C121?2>R+1b<^<jA2+3FM3b
  @K4T9N5V:N2T4815Z+2:2:6T4T4X8e<;1?17121;1?1712t+4?9F:8H61Z19v6211]12312G2O2V89aC125Q4Jwi4D2`?413
  1M:9GO1PP81L65@g:F2K5JG7+16zhd=d7Z<:+3yO1Z62+14X8F;4KB_LDG<fJN1221=^PI7:9T?:41218S31<a>4;;114D;B
  1I+1:711141?1:7`A:;8222F17121531B1<5+2:fB45:53NaD2118:+2B`Y4TaD1;:V[=17:gKE<47+2U]+1Z+19<8212812
  1H?111>:w82W@111L1:X71E1;_C1Bz+3Y91UA1?M5N+1V7121VE19:66121P>17:+4>C+2Y1?E[+<R+1L+1UA+2a+S_+1G?+
  >S+gf+7r*01Zb+7d7O1:6+151:6NBa@4<:171E5C+9F+1=+1O+1151s=q211L*018u8+@gZ9*01_h417121+3v^3A48+5J+O
  >+1Q5=397:*0134D+1RI+1n+1;1x122122241<11171r1428171L141511371+4]2I1I1O1I1O1I1O1I1O1I182c+H@O+6U^
  :72:41+4INB]4:+@w714121?1+2b29au714:+:dl1314+12^1?+2_41K1211211:14111161411111131211211111111112
  1124171414111:1A53151A+7o=+Ub:+=u*07lFP+i97+302*013q>*01Jz+Yv+7H+DJ+sh"

/-- Is it a letter, a digit or a low line? -/
def isWordChar (c : Char) : Bool :=
  if c.toNat < 128 then c.isAlphanum || c = '_' else wordTable.contains c.toNat

def trimLeft (cs : List Char) : List Char := cs.dropWhile isBlank

def trimRight (cs : List Char) : List Char := (cs.reverse.dropWhile isBlank).reverse

/-- A text without the blanks at both ends. -/
def trim (s : String) : String := String.ofList (trimRight (trimLeft s.toList))

end QualityGate.Text
