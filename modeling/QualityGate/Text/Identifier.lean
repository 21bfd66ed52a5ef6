/-
The characters that identifiers are made of.

An identifier starts with a character of the class `XID_Start` or a low line and goes on with
characters of the class `XID_Continue`.  The two classes are data of the Unicode standard; each is
given by the distances between the code points at which membership changes.
-/
import QualityGate.Text.RangeTable

namespace QualityGate.Text

def identifierStartTable : RangeTable := RangeTable.ofDistances
  "+2F1:1415G1O1+6>4<>57111+1h51233116113111D1+191+1r8+2B1V216YxK44^[S21+1I11?272:321@11NM+1?;1HQ92
  415F419131GI7;5H16AZkg31B17:?@48222F17113431@1=213>2:186422F17121212O411C3@9131F17121531B1?2G1;8
  222F17121531N213?1A116331432111232333<F1e8131G1@31J32122N148131G1:1531O212?2A9131Y21@15383H65B3H
  191127ka11=7k211151H111:11:12511E4P1p81TK5+1Y[D1@6443132734=<1AV11512[1+4U142711142Y142Q14271114
  2?1j142tU@@+1<263+8L2A1J5+113;7B=C>B>=13?eS141t+1?7Y115w:ObN25;]4JgG9f+181+1C`A8gN=2:]JTY3:T297[
  23Y41612315+2]q+3i262V26281111111O2f1711331734264=5317+1Z1=1@=+1K1412:11266111111@245541AY+T?+37
  6432<V11512i71@G9717171717171717+7P3I975254+1<631+1@145[1+1DAPa@+6u*01?6q*043Ot_2+3`3@:2D`@O2+16
  W92+1M2q521115H@13141GMe>co63112;L:GIM7`L1@51::51YG318DG313c1132252111H32;73<6262697171[1>6+1YM*
  022y<G4b*01X@+4w2+1PV7<5511:1=151112121+1RQ+1r6+2wBq2gX:+1^111311111111+1eTJ6J;i2O36262623S<1J1C
  121?2>R+1bvf+3^M3b`P=N5V:N2T4815Z+2:BT4T4X8e<;1?17121;1?1712t+4?9F:8H61Z19v6211]12312G:G9OrC12:F
  :Jwi62q1?4131MZM3MS81LKg:F:C=B+1Tzhd=d=T+4eZ62+14M:18FZB_EKG<fj221=^PIJTM1218S31<a>4E111SB1I+1:7
  11141?1:7`V8222F17121531B1<5+2:fB4D3NaD211+2T`Y4TaD1l[=1xKU7+2U]+1ZqO82128121H?111+1D82W@111L1:X
  71E1;_C1Bz+3Y91UA1bN+1V7121VE1I6121P>1+4OC+2Y1+15+<R+1L+1UA+2a+S_+1G?+>S+gf+7r*01Zb+7d7OA+15ANBa
  @4OE5C+9Fq+1g+1151s=q211L*018u8+@gZ9*01_h417121+3v^3A48+5J+O>+1Q5=397:*016w+1;1x122122241<11171r
  1428171L141511371+4]2I1I1O1I1O1I1O1I1O1I18+HuO+6U^:7@1+4INB]+A:714121?1+2blu71+@D41K1211211:1411
  11614111111312112111111111121124171414111:1A53151A+lg*07lFP+i97+302*013q>*01Jz+Yv+7H+DJ+sh"

/-- The characters that may follow in an identifier, beyond ASCII. -/
def identifierPartTable : RangeTable := RangeTable.ofDistances
  "+2F1:111215G1O1+6>4<>57111A+1[12331165111D1+191+1r152+2B1V216Y8^111212118K44M;5+104+1L182:1C21@l
  2+1K>g41212_BL4;5H169+101+1h2:1C18222F1711342922248142152<:1112316422F17121212211542233174117@;3
  19131F1712152:131321?42:971318222F1712152922237342152:11@216331432111232333<4533142161>:@=131G1@
  291314721321242:@418131G1:152913147262142:12==131d131554752::6131B3H191127314611186:22=k5?1:W211
  151H111G2511162:24P1G26:;111114:1T4D1B1T91j+106+142V11512[1+4U142711142Y142Q142711142?1j142t2399
  >@@+1<263+8L2A1J5+113;7F9F;D<=1312<+1:31422:Q31;6+1?7[5w:O1<4<:X25;]4J6;UL4p1M2;6:=18>1@b+133:A9
  <+1Z<i8:3b297[23@31W5+7@262V26281111111O2f1711331734264=5317s2C1L1=1@=d=413<A1412:11266111111@24
  5541AY+T?+3769<V11512i71?H97171717171717171P+6z3I?15254+1<22231+1@145[1+1DAPa@+6u*01?6q*043Ot_2+
  3`3LDa4:1+1YU92+1M2q521115Hg41Ce<w::6H311b2T<M3r>;6O1h9>2:6G3zH32@25:6262697171[1>6+1b122:6*022y
  <G4b*01X@+4w2+1PV7<55<1=151112121+1RQ+1r6+2wBq2gX:6@@@32H3Q111311111111+1eC:7J411J;+1?36262623S<
  1J1C121?2>R+1bvf+1o1+1iM3b?1OP=N5[5N2T4815Z+2:2:6T4T4X8e<;1?17121;1?1712t+4?9F:8H61Z19v6211]1231
  2G:G9OrC12:F:Jwi62q41258131M2341PM3MS81NIg:F:C=B+1Tzhd=d=X8:+4NZ1232+14M:18QOFZEKG9xO@9m71=I7:6f
  1:448T219v441=11SB1U61r711141?1:7l5:6418222F1712151:22232161572735+1r+115:44Nw118:+2Bg29G6Rr31;:
  Vj7:gK2?4:67+2Ul+1K+10E82128121N1229<:w82_2812Kp818+1031Bz+3Y91^19?:HN2F1>z7121]3112198:66121U12
  167:+4>G+2U1+15+<R+1L+1UA+2a+S_+1G?+>S+gf+7r*01Zb+7d7O1:6+151:6N25;h94<:9E5C+9Fq+1g+114j7Aq212;2
  >*018u8+@gZ9*01_h417121+3v^3A48+5J+O>+1Q5=397:32+p[_2G+7H5368827N4+203+5z+1;1x122122241<11171r14
  28171L141511371+4]2I1I1O1I1O1I1O1I1O1I182c+6uh4c81>1F51?+>uO+3371A271215+2r^3>2:41+4IOAk+@w71412
  1?1+2b;7Y+124:+@641K1211211:141111614111111312112111111111121124171414111:1A53151A+^c:+=u*07lFP+
  i97+302*013q>*01Jz+Yv+7H+DJ+sh*1ikY+3B"

def isIdentifierStart (c : Char) : Bool :=
  if c.toNat < 128 then c.isAlpha || c = '_' else identifierStartTable.contains c.toNat

def isIdentifierPart (c : Char) : Bool :=
  if c.toNat < 128 then c.isAlphanum || c = '_' else identifierPartTable.contains c.toNat

/-- The position of the first character that keeps `s` from being an identifier; the length of
`s` if there is none. -/
def identifierPrefixLength : List Char → Nat
  | [] => 0
  | c :: cs => if isIdentifierStart c then 1 + (cs.takeWhile isIdentifierPart).length else 0

end QualityGate.Text
