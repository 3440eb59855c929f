import Reckoner.Limits
import Reckoner.Proofs.Expression.Respelling

/-!
Evaluation of the text of a tree. It gives what the tree gives if all numbers of the tree are
finite; the others are written by names that are no tokens.
-/
namespace Reckoner

namespace Scanner

variable {c : Char} {cs rest : List Char} {ts : List Token} {pos : Nat}

/-- The text has an error in it, wherever it stands. -/
def Fails (cs : List Char) : Prop :=
  ∀ pos, ∃ error, (items ⟨cs, pos, false⟩).mapM id = .error error

theorem next_invalid (hblank : isBlank c = false) (hnumeral : isNumeral c = false)
    (h : Token.ofChar? c = none) :
    next ⟨c :: rest, pos, false⟩ =
      (some (.error (.invalidCharacter c pos)), ⟨rest, pos + 1, true⟩) := by
  simp [next, hblank, hnumeral, h]

theorem mapM_id_eq_ok {items : List (Except LexicalError Lexeme)} {ls : List Lexeme}
    (h : items.mapM id = .ok ls) : items = ls.map Except.ok := by
  induction items generalizing ls with
  | nil =>
    cases h
    rfl
  | cons item items ih =>
    rw [List.mapM_cons] at h
    obtain ⟨l, hl, hrest⟩ := bind_eq_ok_iff.mp h
    obtain ⟨tail, htail, hls⟩ := bind_eq_ok_iff.mp hrest
    cases hls
    rw [List.map_cons, ← ih htail]
    exact congrArg (· :: items) hl

theorem mapM_id_eq_error {items : List (Except LexicalError Lexeme)} {error : LexicalError}
    (h : items.mapM id = .error error) (ls : List Lexeme) :
    (ls.map Except.ok ++ items).mapM id = .error error := by
  induction ls with
  | nil => exact h
  | cons l ls ih =>
    rw [List.map_cons, List.cons_append, List.mapM_cons, ih]
    rfl

namespace Fails

theorem invalid (hblank : isBlank c = false) (hnumeral : isNumeral c = false)
    (h : Token.ofChar? c = none) : Fails (c :: rest) := by
  intro pos
  refine ⟨.invalidCharacter c pos, ?_⟩
  rw [items_of_next (next_invalid hblank hnumeral h), List.mapM_cons]
  rfl

theorem of_yields (h : Yields cs ts rest) (hrest : Fails rest) : Fails cs := by
  intro pos
  obtain ⟨ls, pos', -, hitems⟩ := h pos
  obtain ⟨error, herror⟩ := hrest pos'
  rw [hitems]
  exact ⟨error, mapM_id_eq_error herror ls⟩

/-- The names of the infinities and of what is no number begin with letters. -/
theorem write {x : Binary64} (h : x.isFinite = false) (rest : List Char) :
    Fails (Layout.plain.write x ++ rest) := by
  have hrank : ¬ x.rank < Binary64.infinityRank := of_decide_eq_false h
  have hletter : ∀ tail, Fails ('i' :: tail) := fun _ => invalid rfl rfl rfl
  have hminus : ∀ tail, Yields ('-' :: 'i' :: tail) [.operator .minus] ('i' :: tail) :=
    fun tail => (Yields.refl ('i' :: tail)).symbol rfl
  unfold Layout.write
  split
  · exact invalid (c := 'N') rfl rfl rfl
  · rename_i hnan
    have hinfinite : x.isInfinite = true := by
      have hle : ¬ Binary64.infinityRank < x.rank := of_decide_eq_false (Bool.eq_false_iff.mpr hnan)
      exact beq_iff_eq.mpr (by omega)
    rw [if_pos hinfinite]
    split
    · exact of_yields (hminus _) (hletter _)
    · exact hletter _

end Fails
end Scanner

theorem Limits.parse_eq_ok_iff {limits : Limits} {text : String} {tree : Expr} :
    limits.parse text = .ok tree ↔ ∃ ls, lexemes text = .ok ls ∧
      Expr.ofLexemes ls limits.maxDepth.toNat = .ok tree := by
  unfold parse
  constructor
  · intro h
    obtain ⟨ls, hls, htree⟩ := bind_eq_ok_iff.mp h
    exact ⟨ls, mapError_eq_ok_iff.mp hls, mapError_eq_ok_iff.mp htree⟩
  · rintro ⟨ls, hls, htree⟩
    exact bind_eq_ok_iff.mpr ⟨ls, mapError_eq_ok_iff.mpr hls, mapError_eq_ok_iff.mpr htree⟩

/-- A text that is not too long is rejected for what is wrong with its lexemes. -/
theorem Limits.evaluate_of_ofLexemes_error {limits : Limits} {text : String} {ls : List Lexeme}
    {error : GrammarError} (hlength : text.length ≤ limits.maxExpressionLength.toNat)
    (hls : lexemes text = .ok ls)
    (h : Expr.ofLexemes ls limits.maxDepth.toNat = .error error) :
    limits.evaluate text = .error (.grammar error) := by
  rw [evaluate, if_neg (Nat.not_lt.mpr hlength), parse, hls]
  exact congrArg (fun result : Except GrammarError Expr => (result.mapError Rejection.grammar).bind
    fun tree => tree.evaluate.mapError Rejection.arithmetic) h

namespace Expr

variable {limits : Limits} {e : Expr} {rest : List Char}

/-- The text of a tree has an error in it if a number of the tree is not finite. -/
theorem fails_writeBefore (e : Expr) (h : e.allFinite = false) (rest : List Char) :
    Scanner.Fails (e.writeBefore rest) := by
  have hopening : ∀ cs, Scanner.Yields ('(' :: cs) [.opening] cs :=
    fun cs => (Scanner.Yields.refl cs).symbol rfl
  induction e generalizing rest with
  | number value => exact Scanner.Fails.write h rest
  | negate operand ih =>
    have hsign : Scanner.Yields ('-' :: operand.writeBefore (')' :: rest)) [.operator .minus]
        (operand.writeBefore (')' :: rest)) := (Scanner.Yields.refl _).symbol rfl
    exact ((ih h _).of_yields hsign).of_yields (hopening _)
  | binary op left right ihl ihr =>
    refine Scanner.Fails.of_yields (hopening _) ?_
    cases hleft : left.allFinite with
    | false => exact ihl hleft _
    | true =>
      have hright : right.allFinite = false := by
        rw [allFinite, hleft] at h
        exact h
      have hblank : Scanner.isBlank ' ' = true := rfl
      have hbetween := (((Scanner.Yields.refl (right.writeBefore (')' :: rest))).blank
        hblank).symbol (Token.ofChar?_symbol op)).blank hblank
      have hends : Scanner.Bounds (' ' :: op.symbol :: ' ' :: right.writeBefore (')' :: rest)) :=
        Scanner.Bounds.of_cons rfl
      exact (ihr hright _).of_yields ((left.yields_writeBefore hleft hends).trans hbetween)

theorem lexemes_text_of_not_allFinite (h : e.allFinite = false) :
    ∃ error, lexemes e.text = .error error := by
  have hfails := e.fails_writeBefore h [] 0
  rwa [lexemes, Scanner.ofText, text, String.toList_ofList]

theorem parse_text_of_allFinite (h : e.allFinite = true)
    (hdepth : e.textNesting ≤ limits.maxDepth.toNat) :
    limits.parse e.text = .ok e.respelled := by
  have hyields := e.yields_writeBefore h (show Scanner.Bounds [] by simp [Scanner.Bounds])
  obtain ⟨ls, hlexemes, hls⟩ := lexemes_of_yields hyields
  have hphrase : Phrase .expression (ls.map Lexeme.token) e.respelled e.textNesting :=
    hls ▸ e.phrase_tokens.toTerm.toExpression
  have htree : ofLexemes ls limits.maxDepth.toNat = .ok e.respelled := by
    rw [ofLexemes_of_phrase hphrase, if_pos hdepth]
  exact Limits.parse_eq_ok_iff.mpr ⟨ls, hlexemes, htree⟩

end Expr

theorem Limits.evaluate_of_parse {limits : Limits} {text : String} {tree : Expr}
    (hlength : text.length ≤ limits.maxExpressionLength.toNat) (h : limits.parse text = .ok tree) :
    limits.evaluate text = tree.evaluate.mapError .arithmetic := by
  rw [evaluate, if_neg (Nat.not_lt.mpr hlength), h]
  rfl

/-- A tree of finite numbers has the value of its text. -/
theorem Expr.evaluate_text_of_allFinite {limits : Limits} {e : Expr} (h : e.allFinite = true)
    (hlength : e.text.length ≤ limits.maxExpressionLength.toNat)
    (hdepth : e.textNesting ≤ limits.maxDepth.toNat) :
    limits.evaluate e.text = e.evaluate.mapError .arithmetic := by
  rw [Limits.evaluate_of_parse hlength (parse_text_of_allFinite h hdepth), evaluate_respelled]

/-- Within limits that its text keeps, a tree is evaluated through its text as it is by itself if
all its numbers are finite. Otherwise its text is not even split into lexemes. -/
theorem Limits.evaluate_text (limits : Limits) (e : Expr)
    (hlength : e.text.length ≤ limits.maxExpressionLength.toNat)
    (hdepth : e.textNesting ≤ limits.maxDepth.toNat) :
    (e.allFinite = true → limits.evaluate e.text = e.evaluate.mapError .arithmetic) ∧
    (e.allFinite = false → ∃ error, limits.evaluate e.text = .error (.lexical error)) := by
  constructor
  · intro h
    exact Expr.evaluate_text_of_allFinite h hlength hdepth
  · intro h
    obtain ⟨error, herror⟩ := Expr.lexemes_text_of_not_allFinite h
    refine ⟨error, ?_⟩
    rw [evaluate, if_neg (Nat.not_lt.mpr hlength), parse, herror]
    rfl

/-- A division by zero stays one. -/
theorem Limits.evaluate_text_division :
    let e := Expr.binary .slash (.number (.zero false)) (.number (.zero true))
    e.text = "(0 / -0)" ∧
      ({} : Limits).evaluate e.text = .error (.arithmetic .divisionByZero) := by
  intro e
  have htext : e.text = "(0 / -0)" := by decide +kernel
  have hlength : e.text.length ≤ ({} : Limits).maxExpressionLength.toNat := by
    rw [htext]
    decide
  have hvalue : e.evaluate = .error .divisionByZero := by
    rw [Expr.evaluate_binary, Expr.evaluate_number, Expr.evaluate_number]
    rfl
  refine ⟨htext, ?_⟩
  rw [(evaluate_text {} e hlength (by decide)).1 (by decide), hvalue]
  rfl

/-- A literal that is too large is read as an infinity, whose text is no expression: evaluating the
tree overflows, evaluating its text does not get that far. -/
theorem Limits.evaluate_text_tooLarge :
    ({} : Limits).parse (String.ofList ('1' :: List.replicate 309 '0')) =
        .ok (.number (.infinity false)) ∧
      (Expr.number (.infinity false)).evaluate = .error .overflow ∧
      (Expr.number (.infinity false)).text = "inf" ∧
      ({} : Limits).evaluate "inf" = .error (.lexical (.invalidCharacter 'i' 0)) := by
  have hdigits : ∀ c ∈ ['1'] ++ List.replicate 309 '0' ++ [], c.isDigit = true := by
    intro c hc
    rw [List.append_nil] at hc
    rcases List.mem_append.mp hc with hone | hzero
    · obtain rfl := List.mem_singleton.mp hone
      rfl
    · exact Layout.isDigit_of_mem_replicate hzero
  have hinfinite : Binary64.ofDecimal (10 ^ 309 * Text.digitsValue ['1']) 0 =
      .infinity false := by decide +kernel
  have hne : ['1'] ++ List.replicate 309 '0' ≠ [] := List.cons_ne_nil _ _
  have hliteral := Scanner.literalValue?_pointed (Scanner.pointed_ne_nil hne) hdigits
  rw [List.append_nil, digitsValue_append_zeros, List.length_nil, hinfinite, pointed_nil]
    at hliteral
  have hnumeral : ∀ c ∈ ['1'] ++ List.replicate 309 '0', Scanner.isNumeral c = true :=
    fun c hc => Scanner.isNumeral_of_mem_pointed hdigits hc
  have hyields := Scanner.Yields.literal hne hnumeral
    (show Scanner.Bounds [] by simp [Scanner.Bounds]) hliteral
  obtain ⟨ls, hlexemes, hls⟩ := lexemes_of_yields hyields
  rw [List.append_nil, List.singleton_append] at hlexemes
  have htokens : Phrase .unary [.number (.infinity false)] (.number (.infinity false)) 0 :=
    .number _
  have hphrase : Phrase .expression (ls.map Lexeme.token) (.number (.infinity false)) 0 :=
    hls ▸ htokens.toTerm.toExpression
  have htree : Expr.ofLexemes ls ({} : Limits).maxDepth.toNat =
      .ok (.number (.infinity false)) := by
    rw [ofLexemes_of_phrase hphrase, if_pos (Nat.zero_le _)]
  have herror : lexemes "inf" = .error (.invalidCharacter 'i' 0) := by
    have hstart : Scanner.ofText "inf" = ⟨['i', 'n', 'f'], 0, false⟩ := rfl
    rw [lexemes, hstart, Scanner.items_of_next (Scanner.next_invalid rfl rfl rfl)]
    rfl
  refine ⟨?_, ?_, rfl, ?_⟩
  · rw [parse, hlexemes]
    exact congrArg (Except.mapError Rejection.grammar) htree
  · rw [Expr.evaluate_number]
    rfl
  · have hlength : ¬ ({} : Limits).maxExpressionLength.toNat < "inf".length := by decide
    rw [evaluate, if_neg hlength, parse, herror]
    rfl

end Reckoner
