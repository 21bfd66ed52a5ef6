/-
The compatibility normal form of identifiers (form KC of the Unicode standard).

Characters that are only another form of one or more others are replaced by these: ligatures, forms
of full width, numerals, and letters that are raised, lowered or of a fancy shape.  Marks are left
where they are.
-/
namespace QualityGate.Text

namespace Compatibility

/-- Each word is a character, and what it is replaced by. -/
def replacements : String :=
  "ªa µμ ºo ĲIJ ĳij ĿL· ŀl· ŉʼn ſs ǄDŽ ǅDž ǆdž ǇLJ ǈLj ǉlj ǊNJ ǋNj ǌnj ǱDZ ǲDz ǳdz ʰh ʱɦ ʲj ʳr " ++
  "ʴɹ ʵɻ ʶʁ ʷw ʸy ⁱi ⁿn ₐa ₑe ₒo ₓx ₔə ₕh ₖk ₗl ₘm ₙn ₚp ₛs ₜt ℂC ℇƐ ℊg ℋH ℌH ℍH ℎh ℏħ ℐI ℑI " ++
  "ℒL ℓl ℕN ℙP ℚQ ℛR ℜR ℝR ℤZ ΩΩ ℨZ KK ÅÅ ℬB ℭC ℯe ℰE ℱF ℳM ℴo ℵא ℶב ℷג ℸד ℹi ℼπ ℽγ ℾΓ ℿΠ ⅠI " ++
  "ⅡII ⅢIII ⅣIV ⅤV ⅥVI ⅦVII ⅧVIII ⅨIX ⅩX ⅪXI ⅫXII ⅬL ⅭC ⅮD ⅯM ⅰi ⅱii ⅲiii ⅳiv ⅴv ⅵvi ⅶvii " ++
  "ⅷviii ⅸix ⅹx ⅺxi ⅻxii ⅼl ⅽc ⅾd ⅿm ﬀff ﬁfi ﬂfl ﬃffi ﬄffl ﬅst ﬆst"

def replacementOf : List (Char × List Char) :=
  (replacements.splitOn " ").filterMap fun word =>
    match word.toList with
    | c :: cs => some (c, cs)
    | [] => none

def replace (c : Char) : List Char :=
  let n := c.toNat
  if 0xFF01 ≤ n && n ≤ 0xFF5E then [Char.ofNat (n - 0xFEE0)]
  -- the alphabets and the figures of mathematics, each in several shapes
  else if 0x1D400 ≤ n && n < 0x1D6A4 then
    let i := (n - 0x1D400) % 52
    [Char.ofNat (if i < 26 then 'A'.toNat + i else 'a'.toNat + (i - 26))]
  else if 0x1D7CE ≤ n && n ≤ 0x1D7FF then [Char.ofNat ('0'.toNat + (n - 0x1D7CE) % 10)]
  else (replacementOf.lookup c).getD [c]

end Compatibility

def compatibilityForm (s : String) : String :=
  if s.toList.all (·.toNat < 128) then s
  else String.ofList (s.toList.flatMap Compatibility.replace)

end QualityGate.Text
