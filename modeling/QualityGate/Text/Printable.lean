/-
The characters that have a printed form.

Everything is printable except control, format, surrogate, private-use and unassigned code points
and the separators other than the ASCII space; the exceptions are data of the Unicode standard.
-/
import QualityGate.Text.RangeTable

namespace QualityGate.Text

/-- The code points without a printed form. -/
def unprintableTable : RangeTable := RangeTable.ofDistances
  "0P+1ER<1+9a2647111D1+5K1V2c231h8K46AF1+2]1a2l2+1K>l2b2?1L211;5O9+101+2=18222F1711342922248142152
  I2316422F17121212211542233174117A:319131F1712152:131321?42<771318222F1712152922237342152B:216331
  432111232333<4533142161>E5=131G1@291314721321242:7F131G1:152913147262142:12==131d13164@2J131B3H1
  91127314611186:23<k4MU211151H111G2511162:24Py1T4W1T1?1=U+2c11512+57142711142Y142Q142711142?1j142
  t2P3J6+1<262+8a1L3+1?7F9H9D<=1312<+1D2:6:6>1;6+1?7[5w:O1<4<413Z25;]4J6;3o2r1M2;6:6>2Ob+133`1+1Z8
  m3?3m7[2;8[5+7@262V26281111111O2f1?1>261C2319AH8`A22K1=3Q?Q?+1s4+8xI;E+HT2P1+4f5^11512i72>H97171
  717171717171+1eRJ1+1?<+2sJ<5p1+1<2+1M5[1+1D1+1:<`1*05Ip3h9+4eD+2T8+2h521115Hl3:6i8w8<6+1Z;N3+141
  ;4Q1h9>2:2+1MHL:6262697171m4+1e2:6*022y<G4b4+Kc*01<T+4w2+1PV7<55J151112121+1d@+612g71PZ6d1C14451
  +1n4+2Z362626233717=22<1J1C121?2>R+1b534^3+1>1=31`_+1iM3b?L4T9N5[5N1U4>Z+2:2:6T4T4X8e;<1?17121;1
  ?1712t+4?9F:8H61Z19v6211]12312G1y89aC125Q3K51qi4D2c1258131M234:797qPW4<9g3M2K5J74<7+16zhd=d7_8:+
  3yO1Z1322+14X8ZFJVLDG9+144T9o15=I7:6f1B8W9+1F1D;B1]r711141?1;6l5:6418222F1712151:22232161572735+
  1r+1B15Ny8:+2Bg2VRv;:6=Ck6:gK2?4G+2Um+1J+19<82128121N122<9:w82_2;Ky8+19=z+3Y91^1>:M3P2F1>z7121]3
  112198:66121U12167:+4>I+2S1?c=+<S+1L+1U15;+2a+S_+1I=+>S+gf+7r*01Zb+7d7O1:4+171:6N26:w::171E5C+9F
  +1A+1K+114j7Aq5;2>*018u8+@gZ9*01_h417121+3v^3A48+5J+O>+1Q5=397:24+pZ_2G9+1Zm+3H:W2+108+1VEw+26D<
  +1=9I+1n+1;1x122122241<11171r1428171L141511371+4]2+3w2+9T?51?+>uO+3371A271215+2r^3>2:42+4HOAk51+
  @q714121?1+2b2@Y+124:42+:^u+12n+2_41K1211211:141111614111111312112111111111121124171414111:1A531
  51Ae2+3a]4+1J<?2?1?1U:+2JiM=]4972>6+26+=F5@3=3+1Z<+1?7<41?<4i8:6X8N22+14+4]<>2535379M3;56::68879
  +1z1hU:+=u*07lFP+i97+302*013q>*01Jz+Yv+7H+DJ+sh*1ikY+3B*0Sm<"

def isPrintable (c : Char) : Bool :=
  if c.toNat < 127 then 32 ≤ c.toNat else !unprintableTable.contains c.toNat

end QualityGate.Text
