import Mathlib.Computability.RegularExpressions

/-!
# Patterns

Regular expressions as they are written: character classes by ranges, groups, optional parts and
counted repetitions. A pattern has a text, and a regular expression over whatever units its
characters are encoded in. Membership of a string is decided one unit at a time; a counted
repetition before a last item reads separated items.
-/

inductive Pattern where
  | character (c : Char)
  | oneOf (ranges : List (Char × Char))
  | sequence (first second : Pattern)
  | either (first second : Pattern)
  | group (capturing : Bool) (content : Pattern)
  | optional (content : Pattern)
  | times (content : Pattern) (n : Nat)
  | atLeastAtMost (content : Pattern) (least most : Nat)
  | wholeLine (content : Pattern)

namespace Pattern

def rangeText (range : Char × Char) : List Char :=
  if range.1 = range.2 then [range.1] else [range.1, '-', range.2]

def text : Pattern → List Char
  | character c => if c = '.' then ['\\', c] else [c]
  | oneOf ranges => '[' :: ranges.flatMap rangeText ++ [']']
  | sequence first second => first.text ++ second.text
  | either first second => first.text ++ '|' :: second.text
  | group capturing content =>
    (if capturing then ['('] else ['(', '?', ':']) ++ content.text ++ [')']
  | optional content => content.text ++ ['?']
  | times content n => content.text ++ '{' :: Nat.toDigits 10 n ++ ['}']
  | atLeastAtMost content least most =>
    content.text ++ '{' :: Nat.toDigits 10 least ++ ',' :: Nat.toDigits 10 most ++ ['}']
  | wholeLine content => '^' :: content.text ++ ['$']

/-- The characters of a range, both ends included. -/
def charactersOf (range : Char × Char) : List Char :=
  (List.range' range.1.toNat (range.2.toNat + 1 - range.1.toNat)).map Char.ofNat

variable {α : Type*}

def anyOf : List α → RegularExpression α
  | [] => 0
  | unit :: units => RegularExpression.char unit + anyOf units

/-- The regular expression over the units that encode the characters. -/
def expression (encode : Char → α) : Pattern → RegularExpression α
  | character c => RegularExpression.char (encode c)
  | oneOf ranges => anyOf ((ranges.flatMap charactersOf).map encode)
  | sequence first second => first.expression encode * second.expression encode
  | either first second => first.expression encode + second.expression encode
  | group _ content => content.expression encode
  | optional content => 1 + content.expression encode
  | times content n => content.expression encode ^ n
  | atLeastAtMost content least most =>
    content.expression encode ^ least * (1 + content.expression encode) ^ (most - least)
  | wholeLine content => content.expression encode

def language (encode : Char → α) (pattern : Pattern) : Language α :=
  (pattern.expression encode).matches'

/-- Whether a string matches the pattern as a whole. -/
def accepts [DecidableEq α] (encode : Char → α) (pattern : Pattern) (s : List α) : Bool :=
  (pattern.expression encode).rmatch s

theorem accepts_iff [DecidableEq α] (encode : Char → α) (pattern : Pattern) (s : List α) :
    pattern.accepts encode s = true ↔ s ∈ pattern.language encode :=
  RegularExpression.rmatch_iff_matches' _ s

section Languages

variable (encode : Char → α)

theorem language_sequence (first second : Pattern) :
    (sequence first second).language encode =
      first.language encode * second.language encode := rfl

theorem language_either (first second : Pattern) :
    (either first second).language encode =
      first.language encode + second.language encode := rfl

theorem language_group (capturing : Bool) (content : Pattern) :
    (group capturing content).language encode = content.language encode := rfl

theorem language_optional (content : Pattern) :
    (optional content).language encode = 1 + content.language encode := rfl

theorem language_times (content : Pattern) (n : Nat) :
    (times content n).language encode = content.language encode ^ n :=
  RegularExpression.matches'_pow _ n

theorem language_atLeastAtMost (content : Pattern) (least most : Nat) :
    (atLeastAtMost content least most).language encode =
      content.language encode ^ least * (1 + content.language encode) ^ (most - least) := by
  have hleast := RegularExpression.matches'_pow (content.expression encode) least
  have hmore := RegularExpression.matches'_pow (1 + content.expression encode) (most - least)
  simp only [language, expression, RegularExpression.matches'_mul, hleast, hmore]
  rfl

theorem language_wholeLine (content : Pattern) :
    (wholeLine content).language encode = content.language encode := rfl

end Languages

theorem mem_anyOf (units : List α) (s : List α) :
    s ∈ (anyOf units).matches' ↔ ∃ unit ∈ units, s = [unit] := by
  induction units with
  | nil => simp [anyOf]
  | cons unit units ih =>
      simp only [anyOf, RegularExpression.matches'_add, RegularExpression.matches'_char,
        Language.mem_add, ih, List.exists_mem_cons_iff]
      exact or_congr_left Set.mem_singleton_iff

/-- A language of single units, and what may follow them. -/
structure Units (L : Language α) (P : α → Prop) : Prop where
  mem : ∀ s, s ∈ L ↔ ∃ unit, P unit ∧ s = [unit]

theorem units_character (encode : Char → α) (c : Char) :
    Units ((character c).language encode) fun unit => unit = encode c := by
  constructor
  intro s
  rw [exists_eq_left]
  exact Set.mem_singleton_iff

theorem units_oneOf (encode : Char → α) (ranges : List (Char × Char)) :
    Units ((oneOf ranges).language encode) fun unit =>
      unit ∈ (ranges.flatMap charactersOf).map encode :=
  ⟨mem_anyOf _⟩

variable {L : Language α} {P : α → Prop}

theorem Units.congr {Q : α → Prop} (hL : Units L P) (h : ∀ unit, P unit ↔ Q unit) :
    Units L Q := by
  constructor
  intro s
  simp only [hL.mem, h]

theorem Units.nil_mem (hL : Units L P) : [] ∈ L ↔ False := by
  simp [hL.mem]

theorem Units.cons_mem (hL : Units L P) (unit : α) (s : List α) :
    unit :: s ∈ L ↔ P unit ∧ s = [] := by
  simp [hL.mem]

theorem Units.nil_mem_mul (hL : Units L P) (M : Language α) : [] ∈ L * M ↔ False := by
  rw [iff_false, Language.mem_mul]
  rintro ⟨s, hs, t, _, hst⟩
  obtain ⟨unit, _, hunit⟩ := (hL.mem s).mp hs
  simp [hunit] at hst

theorem Units.cons_mem_mul (hL : Units L P) (M : Language α) (unit : α) (s : List α) :
    unit :: s ∈ L * M ↔ P unit ∧ s ∈ M := by
  rw [Language.mem_mul]
  constructor
  · rintro ⟨t, ht, u, hu, htu⟩
    obtain ⟨first, hfirst, rfl⟩ := (hL.mem t).mp ht
    obtain ⟨rfl, rfl⟩ := List.cons.inj htu
    exact ⟨hfirst, hu⟩
  · rintro ⟨hunit, hs⟩
    exact ⟨[unit], (hL.mem _).mpr ⟨unit, hunit, rfl⟩, s, hs, rfl⟩

theorem Units.mem_pow (hL : Units L P) (n : Nat) (s : List α) :
    s ∈ L ^ n ↔ s.length = n ∧ ∀ unit ∈ s, P unit := by
  induction n generalizing s with
  | zero =>
      rw [pow_zero, Language.mem_one, List.length_eq_zero_iff]
      constructor
      · rintro rfl
        simp
      · exact fun h => h.1
  | succ n ih =>
      cases s with
      | nil => simp [pow_succ', hL.nil_mem_mul]
      | cons unit s =>
          rw [pow_succ', hL.cons_mem_mul, ih]
          simp only [List.length_cons, Nat.add_right_cancel_iff, List.forall_mem_cons]
          exact and_left_comm

/-- Units in a row of which some may be missing. -/
theorem Units.mem_optional_pow (hL : Units L P) (n : Nat) (s : List α) :
    s ∈ (1 + L) ^ n ↔ s.length ≤ n ∧ ∀ unit ∈ s, P unit := by
  induction n generalizing s with
  | zero =>
      rw [pow_zero, Language.mem_one, Nat.le_zero, List.length_eq_zero_iff]
      constructor
      · rintro rfl
        simp
      · exact fun h => h.1
  | succ n ih =>
      rw [pow_succ', add_mul, one_mul, Language.mem_add, ih]
      cases s with
      | nil => simp
      | cons unit s =>
          rw [hL.cons_mem_mul, ih]
          simp only [List.length_cons, List.forall_mem_cons]
          constructor
          · rintro (⟨hlength, hunits⟩ | ⟨hunit, hlength, hunits⟩)
            · exact ⟨by omega, hunits⟩
            · exact ⟨by omega, hunit, hunits⟩
          · rintro ⟨hlength, hunit, hunits⟩
            exact Or.inr ⟨hunit, by omega, hunits⟩

theorem Units.mem_counted (hL : Units L P) (least more : Nat) (s : List α) :
    s ∈ L ^ least * (1 + L) ^ more ↔
      (least ≤ s.length ∧ s.length ≤ least + more) ∧ ∀ unit ∈ s, P unit := by
  simp only [Language.mem_mul, hL.mem_pow, hL.mem_optional_pow]
  constructor
  · rintro ⟨t, ⟨ht, htunits⟩, u, ⟨hu, huunits⟩, rfl⟩
    refine ⟨by rw [List.length_append]; omega, ?_⟩
    intro unit hunit
    exact (List.mem_append.mp hunit).elim (htunits unit) (huunits unit)
  · rintro ⟨⟨hleast, hmost⟩, hunits⟩
    refine ⟨s.take least, ⟨by rw [List.length_take]; omega, ?_⟩, s.drop least,
      ⟨by rw [List.length_drop]; omega, ?_⟩, List.take_append_drop least s⟩
    · intro unit hunit
      exact hunits unit (List.mem_of_mem_take hunit)
    · intro unit hunit
      exact hunits unit (List.mem_of_mem_drop hunit)

/-- Items that are each followed by a separator, and a last one. -/
theorem mem_separated (items : Language α) (separator : List α) (n : Nat) (s : List α) :
    s ∈ (items * {separator}) ^ n * items ↔
      ∃ parts : List (List α), parts.length = n + 1 ∧ (∀ part ∈ parts, part ∈ items) ∧
        s = separator.intercalate parts := by
  induction n generalizing s with
  | zero =>
      rw [pow_zero, one_mul]
      constructor
      · intro hs
        exact ⟨[s], rfl, by simpa using hs, by simp [List.intercalate]⟩
      · rintro ⟨parts, hlength, hparts, rfl⟩
        obtain ⟨part, rfl⟩ := List.length_eq_one_iff.mp hlength
        simpa [List.intercalate] using hparts
  | succ n ih =>
      rw [pow_succ', mul_assoc, mul_assoc, Language.mem_mul]
      constructor
      · rintro ⟨part, hpart, t, ht, rfl⟩
        obtain ⟨_, hseparator, rest, hrest, rfl⟩ := Language.mem_mul.mp ht
        obtain ⟨parts, hlength, hparts, rfl⟩ := (ih rest).mp hrest
        rw [Set.mem_singleton_iff.mp hseparator]
        refine ⟨part :: parts, by rw [List.length_cons, hlength], ?_, ?_⟩
        · exact List.forall_mem_cons.mpr ⟨hpart, hparts⟩
        · cases parts with
          | nil => simp at hlength
          | cons next parts => simp [List.intercalate]
      · rintro ⟨parts, hlength, hparts, rfl⟩
        cases parts with
        | nil => simp at hlength
        | cons part parts =>
            obtain ⟨hpart, hparts⟩ := List.forall_mem_cons.mp hparts
            cases parts with
            | nil => simp at hlength
            | cons next parts =>
                have hrest := (ih (separator.intercalate (next :: parts))).mpr
                  ⟨next :: parts, by simpa using hlength, hparts, rfl⟩
                refine ⟨part, hpart, separator ++ separator.intercalate (next :: parts), ?_, ?_⟩
                · exact Language.mem_mul.mpr ⟨separator, rfl, _, hrest, rfl⟩
                · simp [List.intercalate]

end Pattern
