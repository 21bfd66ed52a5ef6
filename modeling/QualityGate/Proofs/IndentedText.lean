/-
# Texts that start with an indentation

No statement starts with an indent.  So a text whose first line is indented is no module, whatever
stands in it: its first token is an indent, every rule of the grammar misses there, and the parse
never comes to the end of the file.

`Misses` says that a parser matches nothing at an indent that the tokens start with.  There is one
lemma for each way to put parsers together and one for each rule, and `misses_run` ties them up as
`run` ties up the rules.  A rule is followed up to the first part that has to take a token.
-/
import Mathlib
import QualityGate.Source.Parse

namespace QualityGate.Source

/-- The parse is a plain one, of tokens that start with an indent. -/
structure Env.Indented (env : Env) : Prop where
  plain : env.mistakes = false
  indent : ∃ t, env.stream.tokens[0]? = some t ∧ t.kind = .indent

/-- No match is remembered. -/
def Progress.Matchless (g : Progress) : Prop :=
  ∀ key t mark, g.memo.get? key ≠ some (some (t, mark))

lemma Progress.Matchless.insert {g : Progress} (hg : g.Matchless) (key : Nat) :
    Progress.Matchless { g with memo := g.memo.insert key none } := by
  intro key' t mark
  rw [Std.TreeMap.get?_eq_getElem?, Std.TreeMap.getElem?_insert]
  split
  · simp
  · exact hg key' t mark

namespace Parser

variable {α β : Type}

/-- At an indent that the tokens start with, a parser matches nothing. -/
def Misses (p : Parser α) : Prop :=
  ∀ env g, env.Indented → g.Matchless →
    (∃ g', g'.Matchless ∧ (p env 0 g = .miss g' ∨ p env 0 g = .cut g')) ∨
      ∃ e n, p env 0 g = .stop e n

/-- At an indent that the tokens start with, a parser matches without taking a token. -/
def Stays (p : Parser α) : Prop :=
  ∀ env g, env.Indented → g.Matchless →
    (∃ a g', g'.Matchless ∧ p env 0 g = .done a 0 g') ∨ ∃ e n, p env 0 g = .stop e n

lemma peek_of_indented {env : Env} (h : env.Indented) {g : Progress} (hg : g.Matchless) :
    ∃ t g', peek env 0 g = .done t 0 g' ∧ t.kind = .indent ∧ g'.Matchless := by
  obtain ⟨t, ht, hkind⟩ := h.indent
  rw [peek, ht]
  refine ⟨t, _, rfl, hkind, ?_⟩
  split
  · exact hg
  · exact hg

/-! ## Parsers that take nothing -/

namespace Stays

variable {p : Parser α}

lemma here : Stays here := by
  intro env g h hg
  obtain ⟨t, g', hpeek, -, hg'⟩ := peek_of_indented h hg
  rw [Parser.here, hpeek]
  exact .inl ⟨_, g', hg', rfl⟩

lemma optional (hp : Misses p) : Stays (optional p) := by
  intro env g h hg
  rw [Parser.optional]
  obtain ⟨g', hg', hout | hout⟩ | ⟨e, n, hout⟩ := hp env g h hg
  · exact .inl ⟨none, g', hg', by rw [hout]⟩
  · exact .inl ⟨none, g', hg', by rw [hout]⟩
  · exact .inr ⟨e, n, by rw [hout]⟩

lemma notAhead (hp : Misses p) : Stays (notAhead p) := by
  intro env g h hg
  rw [Parser.notAhead]
  obtain ⟨g', hg', hout | hout⟩ | ⟨e, n, hout⟩ := hp env g h hg
  · exact .inl ⟨(), g', hg', by rw [hout]⟩
  · exact .inl ⟨(), g', hg', by rw [hout]⟩
  · exact .inr ⟨e, n, by rw [hout]⟩

end Stays

/-! ## Parsers that match nothing -/

namespace Misses

variable {p q : Parser α} {f : α → Parser β} {ps : List (Parser α)}

lemma fail : Misses (fail : Parser α) := fun _ g _ hg => .inl ⟨g, hg, .inl rfl⟩

/-- A token of another class is asked for. -/
lemma satisfy {ok : Token → Bool} (hok : ∀ t : Token, t.kind = .indent → ok t = false) :
    Misses (satisfy ok) := by
  intro env g h hg
  obtain ⟨t, g', hpeek, hkind, hg'⟩ := peek_of_indented h hg
  simp only [Parser.satisfy, hpeek, hok t hkind]
  exact .inl ⟨g', hg', .inl rfl⟩

lemma tok (text : String) : Misses (tok text) := satisfy fun t ht => by simp [ht]

lemma tokIn (texts : List String) : Misses (tokIn texts) := satisfy fun t ht => by simp [ht]

lemma softKeyword (text : String) : Misses (softKeyword text) := satisfy fun t ht => by simp [ht]

lemma kind {k : TokenKind} (hk : k ≠ .indent) : Misses (kind k) :=
  satisfy fun t ht => by simp [ht, hk.symm]

lemma bind (hp : Misses p) : Misses (p >>= f) := by
  intro env g h hg
  show (∃ g', _ ∧ (Parser.bind p f env 0 g = _ ∨ Parser.bind p f env 0 g = _)) ∨
    ∃ e n, Parser.bind p f env 0 g = .stop e n
  rw [Parser.bind]
  obtain ⟨g', hg', hout | hout⟩ | ⟨e, n, hout⟩ := hp env g h hg
  · exact .inl ⟨g', hg', .inl (by rw [hout])⟩
  · exact .inl ⟨g', hg', .inr (by rw [hout])⟩
  · exact .inr ⟨e, n, by rw [hout]⟩

/-- What comes behind a parser that takes nothing is read at the same place. -/
lemma behind (hp : Stays p) (hf : ∀ a, Misses (f a)) : Misses (p >>= f) := by
  intro env g h hg
  have hbind : (p >>= f) env 0 g = Parser.bind p f env 0 g := rfl
  rw [hbind, Parser.bind]
  obtain ⟨a, g', hg', hout⟩ | ⟨e, n, hout⟩ := hp env g h hg
  · rw [hout]
    exact hf a env g' h hg'
  · exact .inr ⟨e, n, by rw [hout]⟩

/-- The parts of a node behind the place where it starts. -/
lemma spanned {f : Span → α → Parser β} (hp : Misses p) :
    Misses (do let s ← here; let a ← p; f s a) :=
  behind .here fun _ => bind hp

lemma orElse (hp : Misses p) (hq : Misses q) : Misses (orElse p q) := by
  intro env g h hg
  rw [Parser.orElse]
  obtain ⟨g', hg', hout | hout⟩ | ⟨e, n, hout⟩ := hp env g h hg
  · rw [hout]
    exact hq env g' h hg'
  · exact .inl ⟨g', hg', .inr (by rw [hout])⟩
  · exact .inr ⟨e, n, by rw [hout]⟩

lemma firstOf (hps : ps.Forall Misses) : Misses (firstOf ps) := by
  induction ps with
  | nil => exact fail
  | cons p ps ih =>
    rw [List.forall_cons] at hps
    exact orElse hps.1 (ih hps.2)

lemma rule (hp : Misses p) : Misses (rule p) := by
  intro env g h hg
  rw [Parser.rule]
  obtain ⟨g', hg', hout | hout⟩ | ⟨e, n, hout⟩ := hp env g h hg
  · exact .inl ⟨g', hg', .inl (by rw [hout])⟩
  · exact .inl ⟨g', hg', .inl (by rw [hout])⟩
  · exact .inr ⟨e, n, by rw [hout]⟩

lemma ahead (hp : Misses p) : Misses (ahead p) := by
  intro env g h hg
  rw [Parser.ahead]
  obtain ⟨g', hg', hout | hout⟩ | ⟨e, n, hout⟩ := hp env g h hg
  · exact .inl ⟨g', hg', .inl (by rw [hout])⟩
  · exact .inl ⟨g', hg', .inl (by rw [hout])⟩
  · exact .inr ⟨e, n, by rw [hout]⟩

/-- Common mistakes are not looked for in a plain parse. -/
lemma whenMistakes : Misses (whenMistakes p) := by
  intro env g h hg
  rw [Parser.whenMistakes, h.plain]
  exact .inl ⟨g, hg, .inl rfl⟩

lemma withoutMistakes (hp : Misses p) : Misses (withoutMistakes p) :=
  fun env g h hg => hp { env with mistakes := false } g ⟨rfl, h.indent⟩ hg

lemma deeper (n : Nat) (hp : Misses p) : Misses (deeper n p) := by
  intro env g h hg
  rw [Parser.deeper]
  split
  · exact .inr ⟨_, _, rfl⟩
  · exact hp { env with level := env.level + n } g ⟨h.plain, h.indent⟩ hg

lemma many1 (hp : Misses p) : Misses (many1 p) := bind hp

lemma sepBy1 {sep : Parser β} (hp : Misses p) : Misses (sepBy1 p sep) := bind hp

/-- A miss is remembered as a miss. -/
lemma remembered (r : Rule) {p : Parser Tree} (hp : Misses p) : Misses (remembered r p) := by
  intro env g h hg
  rw [Source.remembered]
  split
  · exact hp env g h hg
  · simp only [h.plain, Bool.and_false, Bool.false_eq_true, if_false]
    split
    · next hmemo => exact absurd hmemo (hg _ _ _)
    · exact .inl ⟨g, hg, .inl rfl⟩
    · obtain ⟨g', hg', hout | hout⟩ | ⟨e, n, hout⟩ := hp env g h hg
      · exact .inl ⟨_, hg'.insert _, .inl (by rw [hout])⟩
      · exact .inl ⟨g', hg', .inr (by rw [hout])⟩
      · exact .inr ⟨e, n, by rw [hout]⟩

end Misses

end Parser

namespace Grammar

open Source.Parser

/-! ## Rules that start with a token -/

lemma misses_ident : Misses ident := .bind (.kind (by decide))

lemma misses_nameExpr : Misses nameExpr := .spanned misses_ident

lemma misses_numberExpr : Misses numberExpr := .spanned (.kind (by decide))

lemma misses_realNumber : Misses realNumber := .bind misses_numberExpr

lemma misses_signedNumber : Misses signedNumber :=
  .rule <| .firstOf ⟨misses_numberExpr, .spanned (.tok _)⟩

lemma misses_complexNumber : Misses complexNumber :=
  .rule <| .spanned <| .rule <| .firstOf ⟨misses_realNumber, .spanned (.tok _)⟩

lemma misses_constantKeyword : Misses constantKeyword := .spanned (.tokIn _)

lemma misses_captureTarget : Misses captureTarget :=
  .rule <| .behind (.notAhead (.softKeyword _)) fun _ => .bind misses_ident

lemma misses_wildcard : Misses wildcard := .spanned (.softKeyword _)

lemma misses_nameOrAttribute : Misses nameOrAttribute := .spanned misses_nameExpr

lemma misses_attributeOnly : Misses attributeOnly := .rule <| .bind misses_nameOrAttribute

lemma misses_starPattern : Misses starPattern := .firstOf ⟨.spanned (.tok _), .spanned (.tok _)⟩

lemma misses_wordStmt (word : String) (label : Label) : Misses (wordStmt word label) :=
  .spanned (.tok _)

variable {call : Rule → Parser Tree}

lemma misses_starredExpression : Misses (starredExpression call) := .rule <| .spanned (.tok _)

lemma misses_assignmentExpression : Misses (assignmentExpression call) :=
  .rule <| .spanned misses_nameExpr

lemma misses_tuple : Misses (tuple call) := .rule <| .spanned (.tok _)

lemma misses_list : Misses (list call) := .rule <| .spanned (.tok _)

lemma misses_genexp : Misses (genexp call) :=
  .rule <| .firstOf ⟨.spanned (.tok _), .whenMistakes⟩

lemma misses_lambdaExpr : Misses (lambdaExpr call) := .rule <| .spanned (.tok _)

lemma misses_starAtom : Misses (starAtom call) :=
  .rule <| .firstOf ⟨misses_nameExpr, .bind (.tok _), .spanned (.tok _), .spanned (.tok _)⟩

lemma misses_atom : Misses (atom call) :=
  .firstOf ⟨misses_nameExpr, .spanned (.tokIn _), .bind (.ahead (.kind (by decide))),
    misses_numberExpr, .bind (.ahead (.tok _)), .bind (.ahead (.tok _)), .bind (.ahead (.tok _)),
    .spanned (.tok _)⟩

lemma misses_keywordArgument : Misses (keywordArgument call) := .spanned misses_ident

lemma misses_keywordOrStarred : Misses (keywordOrStarred call) :=
  .rule <| .firstOf ⟨.whenMistakes, misses_keywordArgument, misses_starredExpression⟩

lemma misses_keywordOrDoubleStarred : Misses (keywordOrDoubleStarred call) :=
  .rule <| .firstOf ⟨.whenMistakes, misses_keywordArgument, .spanned (.tok _)⟩

lemma misses_keywordArguments : Misses (keywordArguments call) :=
  .rule <| .firstOf ⟨.bind (.sepBy1 misses_keywordOrStarred), .sepBy1 misses_keywordOrStarred,
    .sepBy1 misses_keywordOrDoubleStarred⟩

lemma misses_sequencePattern : Misses (sequencePattern call) :=
  .rule <| .firstOf ⟨.spanned (.tok _), .spanned (.tok _)⟩

lemma misses_mappingPattern : Misses (mappingPattern call) :=
  .rule <| .firstOf
    ⟨.spanned (.tok _), .spanned (.tok _), .spanned (.tok _), .spanned (.tok _)⟩

lemma misses_classPattern : Misses (classPattern call) :=
  .rule <| .firstOf ⟨.spanned misses_nameOrAttribute, .spanned misses_nameOrAttribute,
    .spanned misses_nameOrAttribute, .spanned misses_nameOrAttribute, .whenMistakes⟩

lemma misses_branch (word : String) : Misses (branch call word) :=
  .firstOf ⟨.whenMistakes, .spanned (.tok _), .spanned (.tok _)⟩

lemma misses_matchStmt : Misses (matchStmt call) :=
  .rule <| .firstOf ⟨.spanned (.softKeyword _), .whenMistakes⟩

lemma misses_compoundStmt : Misses (compoundStmt call) :=
  .firstOf ⟨.bind (.ahead (.tokIn _)), .bind (.ahead (.tok _)), .bind (.ahead (.tokIn _)),
    .bind (.ahead (.tokIn _)), .bind (.ahead (.tokIn _)), .bind (.ahead (.tok _)),
    .bind (.ahead (.tok _)), misses_matchStmt⟩

/-! ## Rules that start with other rules -/

section Calls

variable (hcall : ∀ r, Misses (call r))
include hcall

lemma misses_walrusOrExpression : Misses (walrusOrExpression call) :=
  .firstOf ⟨misses_assignmentExpression, .bind (hcall _)⟩

lemma misses_slice : Misses (slice call) :=
  .rule <| .firstOf
    ⟨.behind .here fun _ => .behind (.optional (hcall _)) fun _ => .bind (.tok _), hcall _⟩

lemma misses_slices : Misses (slices call) :=
  .firstOf ⟨.bind (misses_slice hcall), .spanned <| .sepBy1 <|
    .firstOf ⟨misses_slice hcall, misses_starredExpression⟩⟩

lemma misses_args : Misses (args call) :=
  .firstOf ⟨.spanned <| .sepBy1 <|
      .firstOf ⟨misses_starredExpression, .bind (misses_walrusOrExpression hcall)⟩,
    .spanned misses_keywordArguments⟩

lemma misses_finalPart : Misses (finalPart call) :=
  .rule <| .firstOf ⟨.spanned (hcall _), .spanned (hcall _)⟩

lemma misses_starTargets : Misses (starTargets call) :=
  .rule <| .firstOf ⟨.bind (hcall _), .spanned (hcall _)⟩

lemma misses_power : Misses (power call) :=
  .deeper 1 <| .rule <| .firstOf ⟨.spanned (hcall _), hcall _⟩

lemma misses_leftAssociative (ops : List (String × BinaryOp)) (operand : Rule) :
    Misses (leftAssociative call ops operand) := .spanned (hcall _)

lemma misses_comparison : Misses (comparison call) :=
  .rule <| .firstOf ⟨.spanned (hcall _), hcall _⟩

lemma misses_boolOperands (word : String) (op : BoolOp) (operand : Rule) :
    Misses (boolOperands call word op operand) := .firstOf ⟨.spanned (hcall _), hcall _⟩

lemma misses_conditionalAlternatives : Misses (firstOf (conditionalAlternatives call)) :=
  .firstOf ⟨.spanned (hcall _), hcall _, misses_lambdaExpr⟩

lemma misses_badNamedExpression : Misses (badNamedExpression call) :=
  .firstOf ⟨.bind (hcall _), .bind (.kind (by decide)),
    .behind (.notAhead <| .firstOf ⟨misses_list, misses_tuple, misses_genexp,
      .spanned (.tokIn _)⟩) fun _ => .bind (hcall _)⟩

lemma misses_literalPattern : Misses (literalPattern call) :=
  have hvalue : Misses (literalValue call) :=
    .firstOf ⟨.bind misses_signedNumber, misses_complexNumber, hcall _⟩
  .rule <| .firstOf ⟨.spanned hvalue, .bind misses_constantKeyword⟩

lemma misses_closedPattern : Misses (closedPattern call) :=
  .firstOf ⟨misses_literalPattern hcall, .spanned misses_captureTarget, misses_wildcard,
    .rule <| .spanned misses_attributeOnly, .bind (.tok _), misses_sequencePattern,
    misses_mappingPattern, misses_classPattern⟩

lemma misses_pattern : Misses (pattern call) :=
  .firstOf ⟨.rule <| .firstOf ⟨.spanned (hcall _), .whenMistakes⟩, hcall _⟩

lemma misses_assignment : Misses (assignment call) :=
  .rule <| .firstOf ⟨.spanned misses_nameExpr,
    .spanned <| .firstOf ⟨.bind (.tok _), misses_finalPart hcall⟩,
    .spanned <| .many1 <| .bind (misses_starTargets hcall), .spanned (hcall _), .whenMistakes⟩

lemma misses_simpleStmt : Misses (simpleStmt call) :=
  .firstOf ⟨misses_assignment hcall, .spanned (hcall _), .spanned (.tok _),
    .bind (.ahead (.tokIn _)), .bind (.ahead (.tok _)), misses_wordStmt _ _,
    .bind (.ahead (.tok _)), .bind (.ahead (.tok _)), .spanned (.tok _), misses_wordStmt _ _,
    misses_wordStmt _ _, .spanned (.tok _), .spanned (.tok _)⟩

lemma misses_simpleStmts : Misses (simpleStmts call) :=
  .rule <| .firstOf ⟨.bind (hcall _), .bind (.sepBy1 (hcall _))⟩

lemma misses_block : Misses (block call) :=
  .firstOf ⟨.bind (.kind (by decide)), .bind (misses_simpleStmts hcall), .whenMistakes⟩

lemma misses_statements : Misses (statements call) :=
  .bind <| .many1 <| .firstOf ⟨.bind (hcall _), misses_simpleStmts hcall⟩

end Calls

end Grammar

open Source.Parser Grammar

/-- No rule starts with an indent if none of those that it calls does. -/
lemma misses_ruleBody {call : Rule → Parser Tree} (hcall : ∀ r, Misses (call r)) (r : Rule) :
    Misses (ruleBody call r) := by
  cases r with
  | statements => exact misses_statements hcall
  | block => exact misses_block hcall
  | simpleStmt => exact misses_simpleStmt hcall
  | compoundStmt => exact misses_compoundStmt
  | elifStmt => exact misses_branch "elif"
  | expression =>
    exact .orElse .whenMistakes <| .orElse .whenMistakes <| misses_conditionalAlternatives hcall
  | plainExpression => exact .withoutMistakes (misses_conditionalAlternatives hcall)
  | starExpressions => exact .firstOf ⟨.spanned (hcall _), .spanned (hcall _), hcall _⟩
  | starExpression => exact .firstOf ⟨.spanned (.tok _), hcall _⟩
  | namedExpression =>
    exact .firstOf ⟨misses_assignmentExpression, .whenMistakes, .bind (hcall _)⟩
  | badNamedExpression => exact misses_badNamedExpression hcall
  | disjunction => exact misses_boolOperands hcall _ _ _
  | conjunction => exact misses_boolOperands hcall _ _ _
  | inversion => exact .firstOf ⟨.spanned (.tok _), misses_comparison hcall⟩
  | bitOr => exact misses_leftAssociative hcall _ _
  | bitXor => exact misses_leftAssociative hcall _ _
  | bitAnd => exact misses_leftAssociative hcall _ _
  | shift => exact misses_leftAssociative hcall _ _
  | sum => exact misses_leftAssociative hcall _ _
  | term => exact misses_leftAssociative hcall _ _
  | factor => exact .firstOf ⟨.spanned (.tokIn _), misses_power hcall⟩
  | awaited => exact .firstOf ⟨.spanned (.tok _), hcall _⟩
  | primary => exact .spanned (hcall _)
  | atom => exact misses_atom
  | strings => exact .spanned (.many1 (.kind (by decide)))
  | arguments => exact .firstOf ⟨.bind (hcall _), .whenMistakes⟩
  | args => exact misses_args hcall
  | slices => exact misses_slices hcall
  | badAnnotationTarget => exact .firstOf ⟨misses_list, misses_tuple, .bind (.tok _)⟩
  | starTarget => exact .firstOf ⟨.spanned (.tok _), hcall _⟩
  | targetAtom => exact .firstOf ⟨misses_finalPart hcall, misses_starAtom⟩
  | targetPrimary => exact .spanned (hcall _)
  | singleTarget => exact .firstOf ⟨misses_finalPart hcall, misses_nameExpr, .bind (.tok _)⟩
  | delTarget =>
    exact .firstOf ⟨misses_finalPart hcall, misses_nameExpr, .bind (.tok _),
      .spanned (.tok _), .spanned (.tok _)⟩
  | pattern => exact misses_pattern hcall
  | orPattern => exact .spanned (.sepBy1 (hcall _))
  | closedPattern => exact misses_closedPattern hcall
  | starPattern => exact misses_starPattern

/-- No rule starts with an indent. -/
lemma misses_run : ∀ (fuel : Nat) (r : Rule), Misses (run fuel r)
  | 0, _ => .fail
  | fuel + 1, r => .remembered r <| .deeper _ <| .rule <| misses_ruleBody (misses_run fuel) r

lemma misses_fileRule (fuel : Nat) : Misses (fileRule (run fuel)) :=
  .behind .here fun _ => .behind (.optional (misses_run fuel _)) fun _ => .bind (.kind (by decide))

/-- Tokens that start with an indent are no module. -/
lemma parseStream_of_indented {p : Parser Tree} (hp : Misses p) {stream : TokenStream}
    (hindent : ∃ t, stream.tokens[0]? = some t ∧ t.kind = .indent) (field : Option Nat) (t : Tree) :
    parseStream p stream field ≠ .ok t := by
  have hnone : Progress.Matchless {} := by
    intro key t mark
    rw [Std.TreeMap.get?_eq_getElem?, Std.TreeMap.getElem?_emptyc]
    simp
  rw [parseStream]
  obtain ⟨g', -, hout | hout⟩ | ⟨e, n, hout⟩ :=
    hp { stream, mistakes := false, field } {} ⟨rfl, hindent⟩ hnone
  · simp only [hout]
    split <;> simp
  · simp only [hout]
    split <;> simp
  · simp [hout]

/-! ## The first token -/

/-- A blank that a line may be indented by. -/
def IsIndent (c : Char) : Prop := c = ' ' ∨ c = '\t'

/-- A character that a token may start with: no blank, and nothing that ends a line, starts a
comment or continues a line. -/
def StartsToken (c : Char) : Prop :=
  c ∉ [' ', '\t', '\x0c', '\n', '\r', '#', '\\']

instance : DecidablePred StartsToken := fun _ => inferInstanceAs (Decidable (¬ _))

namespace Lexer

/-- The blanks in front of a token are measured one by one. -/
lemma measureIndent_blanks (s : State) {x : Char} {rest : List Char} (hx : StartsToken x) :
    ∀ (blanks : List Char) (fuel : Nat) (c : Cursor) (col alt : Nat),
      (∀ b ∈ blanks, IsIndent b) → blanks.length < fuel → c.rest = blanks ++ x :: rest →
      ∃ c' col', measureIndent s fuel c col alt 0 = .ok (c', col', alt + blanks.length, 0) ∧
        c'.peek? = some x ∧ col + blanks.length ≤ col' := by
  intro blanks
  induction blanks with
  | nil =>
    intro fuel c col alt _ hfuel hc
    obtain ⟨fuel, rfl⟩ := Nat.exists_eq_add_one_of_ne_zero (by omega : fuel ≠ 0)
    have hpeek : c.peek? = some x := by rw [Cursor.peek?, hc]; rfl
    refine ⟨c, col, ?_, hpeek, le_rfl⟩
    simp only [StartsToken, List.mem_cons, not_or] at hx
    rw [measureIndent, hpeek]
    split <;> simp_all
  | cons b blanks ih =>
    intro fuel c col alt hblanks hfuel hc
    obtain ⟨fuel, rfl⟩ := Nat.exists_eq_add_one_of_ne_zero (by omega : fuel ≠ 0)
    rw [List.forall_mem_cons] at hblanks
    rw [List.length_cons] at hfuel
    have hpeek : c.peek? = some b := by rw [Cursor.peek?, hc]; rfl
    have hrest : c.advance.rest = blanks ++ x :: rest := by simp [Cursor.advance, hc]
    obtain ⟨col', hstep, hcol⟩ : ∃ col' > col, measureIndent s (fuel + 1) c col alt 0 =
        measureIndent s fuel c.advance col' (alt + 1) 0 := by
      rw [measureIndent, hpeek]
      obtain rfl | rfl := hblanks.1
      · exact ⟨col + 1, by omega, rfl⟩
      · exact ⟨(col / 8 + 1) * 8, by omega, rfl⟩
    obtain ⟨c', col'', hread, hpeek', hle⟩ :=
      ih fuel c.advance col' (alt + 1) hblanks.2 (by omega) hrest
    refine ⟨c', col'', ?_, hpeek', by rw [List.length_cons]; omega⟩
    rw [hcol, hread, List.length_cons, Nat.add_right_comm, Nat.add_assoc]

variable {s : State} {x : Char} {blanks rest : List Char}

/-- A line that is indented further than those around it opens a level. -/
lemma startLine_of_indented (hrest : (s.cursor.enterLine false).rest = blanks ++ x :: rest)
    (hsize : blanks.length ≤ s.size) (hindents : s.indents = []) (hbrackets : s.brackets = [])
    (hne : blanks ≠ []) (hblanks : ∀ b ∈ blanks, IsIndent b) (hx : StartsToken x) :
    ∃ s', startLine s = .ok (s', false) ∧ s'.pending = s.pending + 1 := by
  have hlength : 0 < blanks.length := List.length_pos_iff.mpr hne
  obtain ⟨c, col, hmeasure, hpeek, hcol⟩ := measureIndent_blanks { s with lineStart := false } hx
    blanks (s.size + 1) (s.cursor.enterLine false) 0 0 hblanks (by omega) hrest
  have hblank : (c.peek? = some '#' || c.peek? = some '\n') = false := by
    simp only [StartsToken, List.mem_cons, not_or] at hx
    simp [hpeek, hx]
  obtain ⟨s', hindent, hpending⟩ : ∃ s', indentTo { s with lineStart := false } c col
      (0 + blanks.length) = .ok s' ∧ s'.pending = s.pending + 1 := by
    simp only [indentTo, hindents, List.headD_nil, List.length_nil]
    rw [if_neg (by omega), if_pos (by omega), if_neg (by decide), if_neg (by omega)]
    exact ⟨_, rfl, rfl⟩
  refine ⟨s', ?_, hpending⟩
  have houter : s.brackets.isEmpty = true := by rw [hbrackets]; rfl
  rw [startLine]
  simp only [hmeasure, hindent, hblank, houter, Bind.bind, Except.bind, Pure.pure, Except.pure]
  rfl

/-- The first token of an indented line is an indent. -/
lemma next_of_indented (hrest : (s.cursor.enterLine false).rest = blanks ++ x :: rest)
    (hsize : blanks.length ≤ s.size) (hindents : s.indents = []) (hbrackets : s.brackets = [])
    (hpending : s.pending = 0) (hstart : s.lineStart = true)
    (hne : blanks ≠ []) (hblanks : ∀ b ∈ blanks, IsIndent b) (hx : StartsToken x) (fuel : Nat) :
    ∃ t s', next (fuel + 1) s false = .ok (t, s') ∧ t.kind = .indent := by
  obtain ⟨s', hline, hpending'⟩ :=
    startLine_of_indented hrest hsize hindents hbrackets hne hblanks hx
  refine ⟨emptyToken .indent { s' with pending := s'.pending - 1 },
    { s' with pending := s'.pending - 1 }, ?_, rfl⟩
  rw [next, hstart]
  simp only [if_true, hline, Bind.bind, Except.bind, hpending', hpending]
  rfl

/-- What has been collected stays. -/
lemma collect_getElem? {i : Nat} : ∀ (fuel : Nat) (s : State) (ts : Array Token), i < ts.size →
    (collect fuel s ts).tokens[i]? = ts[i]?
  | 0, _, _, _ => rfl
  | fuel + 1, s, ts, hi => by
    have hpush (t : Token) : (ts.push t)[i]? = ts[i]? := by
      rw [Array.getElem?_push, if_neg (by omega)]
    rw [collect]
    split
    · rfl
    · split
      · exact hpush _
      · rw [collect_getElem? fuel _ _ (by rw [Array.size_push]; omega), hpush]

end Lexer

/-- The tokens of a text with an indented first line start with an indent. -/
lemma tokenize_of_indented {blanks rest : List Char} {x : Char} (hne : blanks ≠ [])
    (hblanks : ∀ b ∈ blanks, IsIndent b) (hx : StartsToken x) :
    ∃ t, (tokenize (blanks ++ x :: rest)).tokens[0]? = some t ∧ t.kind = .indent := by
  let s : Lexer.State :=
    { cursor := { rest := blanks ++ x :: rest }, size := (blanks ++ x :: rest).length }
  have hcursor : (s.cursor.enterLine false).rest = blanks ++ x :: rest := by
    simp [s, Cursor.enterLine]
  obtain ⟨t, s', hnext, hkind⟩ := Lexer.next_of_indented hcursor (by simp [s]) rfl rfl rfl rfl hne
    hblanks hx (s.size + 1)
  have hnext : Lexer.next (s.size + 2) s false = .ok (t, s') := hnext
  refine ⟨t, ?_, hkind⟩
  show (Lexer.collect (2 * s.size + 3 + 1) s #[]).tokens[0]? = some t
  rw [Lexer.collect, hnext]
  dsimp only
  rw [if_neg (by rw [hkind]; decide), Lexer.collect_getElem? _ _ _ (by simp)]
  rfl

lemma unifyLineEnds_cons {c : Char} (hc : c ≠ '\r') (cs : List Char) :
    Text.unifyLineEnds (c :: cs) = c :: Text.unifyLineEnds cs := by
  rw [Text.unifyLineEnds]
  · exact fun _ h => absurd h hc
  · exact hc

/-- What stands in front of the first carriage return stays. -/
lemma unifyLineEnds_start {cs : List Char} (hcs : ∀ c ∈ cs, c ≠ '\r') (rest : List Char) :
    Text.unifyLineEnds (cs ++ rest) = cs ++ Text.unifyLineEnds rest := by
  induction cs with
  | nil => rfl
  | cons c cs ih =>
    rw [List.forall_mem_cons] at hcs
    rw [List.cons_append, unifyLineEnds_cons hcs.1, ih hcs.2, List.cons_append]

/-- Line ends do not matter for the indentation of the first line. -/
lemma exists_readable {blanks rest : List Char} {x : Char} {text : String}
    (htext : text.toList = blanks ++ x :: rest) (hblanks : ∀ b ∈ blanks, IsIndent b)
    (hx : StartsToken x) : ∃ rest', readable text = blanks ++ x :: rest' := by
  have hstart : ∀ c ∈ blanks ++ [x], c ≠ '\r' := by
    intro c hc
    rcases List.mem_append.mp hc with hc | hc
    · obtain rfl | rfl := hblanks c hc <;> decide
    · rintro rfl
      rw [List.mem_singleton] at hc
      subst hc
      exact absurd hx (by decide)
  have hsplit : blanks ++ x :: rest = (blanks ++ [x]) ++ rest := by simp
  rw [readable, htext, hsplit, unifyLineEnds_start hstart]
  split
  · exact ⟨Text.unifyLineEnds rest, by simp⟩
  · exact ⟨Text.unifyLineEnds rest ++ ['\n'], by simp⟩

/-- **An indented text is no module.**  Whatever stands behind the blanks in front of its first
token, the text is refused. -/
theorem parse_of_indented {blanks rest : List Char} {x : Char} {text : String}
    (htext : text.toList = blanks ++ x :: rest) (hne : blanks ≠ [])
    (hblanks : ∀ b ∈ blanks, IsIndent b) (hx : StartsToken x) (t : Tree) :
    parse text ≠ .ok t := by
  obtain ⟨rest', hread⟩ := exists_readable htext hblanks hx
  rw [parse, parseWith]
  split
  · simp
  · rw [parseKept, hread]
    split
    · simp
    · dsimp only
      split
      · next tree hparse =>
        exact absurd hparse (parseStream_of_indented (misses_fileRule _)
          (tokenize_of_indented hne hblanks hx) none tree)
      · simp

end QualityGate.Source
