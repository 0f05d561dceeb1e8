import FilterQuery.Proofs.Toml.Strings
import FilterQuery.Text.Lines
import Mathlib.Data.List.Forall2

/-!
# Lines are read one by one

A document that is written line by line, with a header or a pair on each, is read as the statements
of its lines. Each line is read the same whatever the others are.
-/

namespace FilterQuery.Toml

/-! ## Values -/

/-- The value is read from what is written for it, up to the end of the line. -/
structure WrittenAs (item : Value) (written : List Char) : Prop where
  starts : ∃ first others, written = first :: others ∧ isSpace first = false
  reads : ∀ fuel room rest,
    value (fuel + 1) room (written ++ '\n' :: rest) = some (item, '\n' :: rest)

theorem ungroup?_of_digits {digits : List Char} (hne : digits ≠ [])
    (hdigits : ∀ c ∈ digits, c.isDigit = true) : ungroup? Char.isDigit digits = some digits := by
  induction digits with
  | nil => exact absurd rfl hne
  | cons first others ih =>
    obtain ⟨hfirst, hothers⟩ := List.forall_mem_cons.1 hdigits
    match others with
    | [] => rw [ungroup?, if_pos hfirst]
    | second :: others =>
      have hunderscore : second ≠ '_' := ne_of_test (hothers second List.mem_cons_self) rfl
      rw [ungroup?, if_pos hfirst, ih (List.cons_ne_nil _ _) hothers]
      · rfl
      · simp
      · simp [hunderscore]

theorem head?_toDigits_ne {n : Nat} (hpos : 0 < n) : (Nat.toDigits 10 n).head? ≠ some '0' := by
  induction n using Nat.strongRecOn with
  | ind n ih =>
    by_cases hless : n < 10
    · rw [Nat.toDigits_of_lt_base hless, List.head?_cons]
      have hdigit : ∀ n < 10, 0 < n → n.digitChar ≠ '0' := by decide
      simpa using hdigit n hless hpos
    · rw [Nat.toDigits_of_base_le (by decide) (by omega),
        List.head?_append_of_ne_nil _ Nat.toDigits_ne_nil]
      exact ih (n / 10) (by omega) (by omega)

theorem isDigit_of_mem_toDigits {n : Nat} : ∀ c ∈ Nat.toDigits 10 n, c.isDigit = true :=
  fun _ hc => Nat.isDigit_of_mem_toDigits (by decide) (by decide) hc

theorem decimal?_toDigits (n : Nat) : decimal? (Nat.toDigits 10 n) = some n := by
  by_cases hzero : n = 0
  · rw [hzero]
    rfl
  · have hhead := head?_toDigits_ne (Nat.pos_of_ne_zero hzero)
    rw [decimal?, ungroup?_of_digits Nat.toDigits_ne_nil isDigit_of_mem_toDigits]
    split
    · next heq =>
      rw [Option.some.inj heq] at hhead
      exact absurd rfl hhead
    · next heq =>
      rw [Option.some.inj heq] at hhead
      exact absurd rfl hhead
    · next heq =>
      rw [← Option.some.inj heq]
      exact congrArg some Nat.ofDigitChars_ten_toDigits
    · next heq => cases heq

theorem integer?_of_digits {digits : List Char} {n : Nat}
    (hdigits : ∀ c ∈ digits, c.isDigit = true) (hvalue : decimal? digits = some n) :
    integer? digits = some (n : Int) := by
  rw [integer?, hvalue]
  · rfl
  all_goals
    intro rest heq
    rw [heq] at hdigits
    simp at hdigits

theorem scalar?_toDigits (n : Nat) : scalar? (Nat.toDigits 10 n) = some (.integer n) := by
  have hne (word : List Char) (hword : word.all Char.isDigit = false) :
      Nat.toDigits 10 n ≠ word := by
    intro heq
    rw [← heq, List.all_eq_true.2 isDigit_of_mem_toDigits] at hword
    cases hword
  rw [scalar?, if_neg (hne _ rfl), if_neg (hne _ rfl),
    integer?_of_digits isDigit_of_mem_toDigits (decimal?_toDigits n)]

theorem value_of_quotedString {mark : Char} {inside text rest : List Char} (fuel room : Nat)
    (hmark : mark = '"' ∨ mark = '\'')
    (hread : quotedString (mark :: inside) = some (text, rest)) :
    value (fuel + 1) room (mark :: inside) = some (.string (String.ofList text), rest) := by
  cases hmark with
  | inl h =>
    subst h
    rw [value, hread]
    rfl
  | inr h =>
    subst h
    rw [value, hread]
    rfl

/-- A string starts with a quote in every form. -/
theorem StringForm.exists_write_eq_cons (form : StringForm) (text : List Char) :
    ∃ mark inside, form.write text = mark :: inside ∧ (mark = '"' ∨ mark = '\'') := by
  cases form with
  | basic => exact ⟨'"', _, rfl, .inl rfl⟩
  | literal => exact ⟨'\'', _, rfl, .inr rfl⟩
  | basicBlock => exact ⟨'"', _, rfl, .inl rfl⟩
  | literalBlock => exact ⟨'\'', _, rfl, .inr rfl⟩

theorem writtenAs_string (text : String) :
    WrittenAs (.string text) (writeString text).toList := by
  obtain ⟨mark, inside, heq, hmark⟩ :=
    (StringForm.of text.toList).exists_write_eq_cons text.toList
  have hwritten : (writeString text).toList = mark :: inside := by
    rw [writeString, String.toList_ofList, heq]
  constructor
  · refine ⟨mark, inside, hwritten, ?_⟩
    rcases hmark with rfl | rfl <;> rfl
  · intro fuel room rest
    have hread := quotedString_writeString text ('\n' :: rest) (by simp) (by simp)
    rw [hwritten, List.cons_append] at hread ⊢
    rw [value_of_quotedString fuel room hmark hread, String.ofList_toList]

theorem writtenAs_scalar {item : Value} {word : List Char} (hne : word ≠ [])
    (hword : word.all isScalarChar = true) (hscalar : scalar? word = some item) :
    WrittenAs item word := by
  rw [List.all_eq_true] at hword
  cases word with
  | nil => exact absurd rfl hne
  | cons first others =>
    have hfirst := hword first List.mem_cons_self
    have hspace : first ≠ ' ' ∧ first ≠ '\t' :=
      ⟨ne_of_test hfirst rfl, ne_of_test hfirst rfl⟩
    have hopens : first ≠ '[' ∧ first ≠ '\x7b' ∧ first ≠ '"' ∧ first ≠ '\'' :=
      ⟨ne_of_test hfirst rfl, ne_of_test hfirst rfl, ne_of_test hfirst rfl, ne_of_test hfirst rfl⟩
    constructor
    · exact ⟨first, others, rfl, by simp [isSpace, hspace]⟩
    · intro fuel room rest
      have hcut : scalarWord (first :: others ++ '\n' :: rest) =
          (first :: others, '\n' :: rest) := by
        have hend : isScalarChar '\n' = false := rfl
        obtain ⟨htake, hdrop⟩ := takeWhile_append_rest hword (forall_head?_cons hend rest)
        rw [scalarWord, htake, hdrop]
        simp
      rw [List.cons_append] at hcut ⊢
      rw [value, hcut]
      · simp [hscalar]
      all_goals simp [hopens]

theorem writtenAs_integer (n : Nat) : WrittenAs (.integer n) (toString n).toList := by
  have hdigits : (toString n).toList = Nat.toDigits 10 n := Nat.toList_repr
  rw [hdigits]
  apply writtenAs_scalar Nat.toDigits_ne_nil _ (scalar?_toDigits n)
  rw [List.all_eq_true]
  intro c hc
  simp [isScalarChar, Char.isAlphanum, isDigit_of_mem_toDigits c hc]

theorem writtenAs_boolean (value : Bool) :
    WrittenAs (.boolean value) (writeBoolean value).toList := by
  cases value with
  | false => exact writtenAs_scalar (by decide) rfl rfl
  | true => exact writtenAs_scalar (by decide) rfl rfl

/-! ## Statements -/

theorem dropWhile_isSpace_of_keyPart {chars : List Char} {result : List Char × List Char}
    (hpart : keyPart chars = some result) : chars.dropWhile isSpace = chars := by
  cases chars with
  | nil => rfl
  | cons c rest =>
    have hspace : ¬ isSpace c = true := by
      intro h
      rw [isSpace, Bool.or_eq_true, beq_iff_eq, beq_iff_eq] at h
      rcases h with rfl | rfl <;> cases hpart
    exact List.dropWhile_cons_of_neg hspace

theorem dropWhile_isSpace_of_keyPath {count : Nat} {chars : List Char}
    {result : List String × List Char} (hpath : keyPath count chars = some result) :
    chars.dropWhile isSpace = chars := by
  cases count with
  | zero => cases hpath
  | succ count =>
    cases hpart : keyPart chars with
    | none =>
      rw [keyPath, hpart] at hpath
      cases hpath
    | some first => exact dropWhile_isSpace_of_keyPart hpart

theorem keyPath_last {chars name rest : List Char} {count : Nat}
    (hpart : keyPart chars = some (name, rest))
    (hrest : (rest.dropWhile isSpace).head? ≠ some '.') :
    keyPath (count + 1) chars = some ([String.ofList name], rest) := by
  simp only [keyPath, hpart]
  split
  · next heq => exact absurd (congrArg List.head? heq) hrest
  · rfl

theorem keyPath_dot {chars name rest : List Char} {count : Nat}
    {result : List String × List Char} (hpart : keyPart chars = some (name, '.' :: rest))
    (hrest : keyPath count (rest.dropWhile isSpace) = some result) :
    keyPath (count + 1) chars = some (String.ofList name :: result.1, result.2) := by
  have hdot : ('.' :: rest).dropWhile isSpace = '.' :: rest := rfl
  simp only [keyPath, hpart, hdot, hrest, Option.map_some]

/-- The statements of a line are read before those of the lines that follow it. The line itself
takes one unit of fuel and leaves at least one, which the value of a pair needs. -/
def ReadsAs (line : List Char) (parts : List Statement) : Prop :=
  ∀ fuel rest, statements (fuel + 2) (line ++ '\n' :: rest) =
    (statements (fuel + 1) rest).map (parts ++ ·)

theorem readsAs_nil : ReadsAs [] [] := by
  intro fuel rest
  rw [List.nil_append, statements, nextLine?]
  simp

theorem nextLine?_comment {chars : List Char} (hchars : ∀ c ∈ chars, isControl c = false)
    (rest : List Char) : nextLine? true (chars ++ '\n' :: rest) = some rest := by
  induction chars with
  | nil => rw [List.nil_append, nextLine?]
  | cons c others ih =>
    obtain ⟨hc, hothers⟩ := List.forall_mem_cons.1 hchars
    have hends : c ≠ '\n' ∧ c ≠ '\r' := by
      constructor <;> rintro rfl <;> cases hc
    rw [List.cons_append, nextLine?, if_pos rfl, hc, ih hothers]
    · rfl
    · exact fun h => hends.1 h
    · exact fun _ h _ => hends.2 h

/-- A comment may hold all but control characters, and says nothing. -/
theorem readsAs_comment {chars : List Char} (hchars : ∀ c ∈ chars, isControl c = false) :
    ReadsAs ('#' :: chars) [] := by
  intro fuel rest
  have hnext : nextLine? false ('#' :: (chars ++ '\n' :: rest)) = some rest :=
    nextLine?_comment hchars rest
  rw [List.cons_append, statements, hnext]
  simp

theorem readsAs_of_statement {first : Char} {others : List Char} {part : Statement}
    (hfirst : first = '[' ∨ isBareKeyChar first = true)
    (hread : ∀ fuel rest,
      statement (fuel + 1) (first :: (others ++ '\n' :: rest)) = some (part, '\n' :: rest)) :
    ReadsAs (first :: others) [part] := by
  intro fuel rest
  have hstart : first ≠ ' ' ∧ first ≠ '\t' ∧ first ≠ '\n' ∧ first ≠ '\r' ∧ first ≠ '#' := by
    refine ⟨?_, ?_, ?_, ?_, ?_⟩ <;> rintro rfl <;> revert hfirst <;> decide
  have hspace : isSpace first = false := by
    simp [isSpace, hstart]
  have hnext : nextLine? false (first :: (others ++ '\n' :: rest)) = none := by
    rw [nextLine?, hspace]
    all_goals simp [hstart]
  have hdrop : (first :: (others ++ '\n' :: rest)).dropWhile isSpace =
      first :: (others ++ '\n' :: rest) := by
    rw [List.dropWhile_cons_of_neg (by simp [hspace])]
  rw [List.cons_append, statements, hnext, hdrop, hread]
  cases hrest : statements (fuel + 1) rest <;> simp [nextLine?, hrest]

theorem statement_pair {chars afterKey written rest : List Char} {path : List String}
    {item : Value} {fuel : Nat} (hopen : chars.head? ≠ some '[')
    (hpath : keyPath maxNesting chars = some (path, afterKey))
    (hequals : afterEquals? afterKey = some written)
    (hvalue : value fuel maxNesting written = some (item, rest)) :
    statement fuel chars = some (.pair path item, rest) := by
  rw [statement, hpath]
  · simp [hequals, hvalue]
  · rintro inside rfl
    exact hopen rfl

theorem afterEquals?_written {item : Value} {written : List Char}
    (hwritten : WrittenAs item written) (rest : List Char) :
    afterEquals? (' ' :: '=' :: ' ' :: (written ++ rest)) = some (written ++ rest) := by
  obtain ⟨first, others, heq, hspace⟩ := hwritten.starts
  have hdrop : (written ++ rest).dropWhile isSpace = written ++ rest := by
    rw [heq, List.cons_append, List.dropWhile_cons_of_neg (by simp [hspace])]
  exact congrArg some hdrop

theorem keyPath_bare_equals {name : String} (hne : name.toList ≠ [])
    (hname : name.toList.all isBareKeyChar = true) (rest : List Char) :
    keyPath maxNesting (name.toList ++ ' ' :: '=' :: rest) = some ([name], ' ' :: '=' :: rest) := by
  have hend : isBareKeyChar ' ' = false := rfl
  have hpart := keyPart_bare hne hname (forall_head?_cons hend ('=' :: rest))
  have hequals : ((' ' :: '=' :: rest).dropWhile isSpace).head? ≠ some '.' := by
    simp [isSpace]
  rw [maxNesting, keyPath_last hpart hequals, String.ofList_toList]

theorem readsAs_pair {name : String} {item : Value} {written : List Char}
    (hne : name.toList ≠ []) (hname : name.toList.all isBareKeyChar = true)
    (hwritten : WrittenAs item written) :
    ReadsAs (name.toList ++ ' ' :: '=' :: ' ' :: written) [.pair [name] item] := by
  obtain ⟨first, others, hcons⟩ := List.exists_cons_of_ne_nil hne
  have hfirst : isBareKeyChar first = true :=
    List.all_eq_true.1 hname first (hcons ▸ List.mem_cons_self)
  have hopen (rest : List Char) : (name.toList ++ rest).head? ≠ some '[' := by
    intro hhead
    rw [hcons, List.cons_append, List.head?_cons] at hhead
    exact ne_of_test hfirst rfl (Option.some.inj hhead)
  have hread (fuel : Nat) (rest : List Char) :
      statement (fuel + 1) (name.toList ++ ' ' :: '=' :: ' ' :: (written ++ '\n' :: rest)) =
        some (.pair [name] item, '\n' :: rest) :=
    statement_pair (hopen _) (keyPath_bare_equals hne hname _)
      (afterEquals?_written hwritten ('\n' :: rest)) (hwritten.reads fuel maxNesting rest)
  rw [hcons] at hread ⊢
  exact readsAs_of_statement (.inr hfirst) (by simpa using hread)

theorem readsAs_header {path : List String} {inside : List Char}
    (hpath : ∀ rest, keyPath maxNesting (inside ++ ']' :: rest) = some (path, ']' :: rest)) :
    ReadsAs ('[' :: (inside ++ [']'])) [.header path] := by
  apply readsAs_of_statement (.inl rfl)
  intro fuel rest
  have hread := hpath ('\n' :: rest)
  have hspace := dropWhile_isSpace_of_keyPath hread
  rw [List.append_assoc, List.singleton_append, statement, hspace, hread]
  rfl

/-- One unit of fuel is spent on each line, and one on the end. -/
theorem statements_lines {lines : List (List Char)} {parts : List (List Statement)}
    (hlines : List.Forall₂ ReadsAs lines parts) {fuel : Nat} (hfuel : lines.length ≤ fuel) :
    statements (fuel + 1) (lines.flatMap (· ++ ['\n'])) = some parts.flatten := by
  induction hlines generalizing fuel with
  | nil =>
    rw [List.flatMap_nil, statements]
    rfl
  | cons hline _ ih =>
    match fuel with
    | 0 => simp at hfuel
    | fuel + 1 =>
      rw [List.flatMap_cons, List.append_assoc, List.singleton_append, hline,
        ih (Nat.le_of_succ_le_succ hfuel)]
      rfl

theorem length_le_length_flatMap_lines (lines : List (List Char)) :
    lines.length ≤ (lines.flatMap (· ++ ['\n'])).length := by
  induction lines with
  | nil => simp
  | cons line lines ih =>
    simp only [List.flatMap_cons, List.length_cons, List.length_append]
    omega

/-- A document is read as the statements of its lines, put together to tables. -/
theorem read?_unlines {lines : List String} {parts : List (List Statement)}
    (hlines : List.Forall₂ ReadsAs (lines.map String.toList) parts)
    (hmark : (Text.unlines lines).toList.head? ≠ some '\uFEFF') :
    read? (Text.unlines lines) = (parts.flatten.foldlM Draft.add {}).map (·.entries) := by
  have hchars : dropByteOrderMark (Text.unlines lines).toList = (Text.unlines lines).toList := by
    rw [dropByteOrderMark]
    intro rest heq
    exact hmark (congrArg List.head? heq)
  have hfuel := length_le_length_flatMap_lines (lines.map String.toList)
  rw [← Text.toList_unlines] at hfuel
  have hread := statements_lines hlines hfuel
  rw [← Text.toList_unlines] at hread
  rw [read?, hchars]
  simp only [hread, bind, pure, Option.bind_some, Option.map_eq_bind, Function.comp_def]

end FilterQuery.Toml
