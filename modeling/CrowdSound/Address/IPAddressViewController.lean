import CrowdSound.Foundation
import CrowdSound.Library.Patterns

/-!
# The patterns of the address form

The form that asks for the address of the service gives each of its two text fields a pattern that
the text as a whole has to match.
-/

namespace CrowdSound

open Pattern

/-- The UTF-16 code unit of a character outside the surrogate range. -/
def codeUnit (c : Char) : UInt16 := c.toNat.toUInt16

namespace IPAddressViewController

def digitBetween (first last : Char) : Pattern := oneOf [(first, last)]

/-- `25[0-5]`, `2[0-4][0-9]` or `[01]?[0-9][0-9]?`. -/
def octetPattern : Pattern :=
  group false
    (either (sequence (character '2') (sequence (character '5') (digitBetween '0' '5')))
      (either
        (sequence (character '2') (sequence (digitBetween '0' '4') (digitBetween '0' '9')))
        (sequence (optional (oneOf [('0', '0'), ('1', '1')]))
          (sequence (digitBetween '0' '9') (optional (digitBetween '0' '9'))))))

def ipPattern : Pattern :=
  wholeLine (sequence (times (group false (sequence octetPattern (character '.'))) 3) octetPattern)

/-- `[1-5][0-9]{4}`, `6[0-4][0-9]{3}`, `65[0-4][0-9]{2}`, `655[0-2][0-9]` or `6553[0-5]`. -/
def fiveDigitPattern : Pattern :=
  either (sequence (digitBetween '1' '5') (times (digitBetween '0' '9') 4))
    (either
      (sequence (character '6') (sequence (digitBetween '0' '4') (times (digitBetween '0' '9') 3)))
      (either
        (sequence (character '6') (sequence (character '5')
          (sequence (digitBetween '0' '4') (times (digitBetween '0' '9') 2))))
        (either
          (sequence (character '6') (sequence (character '5') (sequence (character '5')
            (sequence (digitBetween '0' '2') (digitBetween '0' '9')))))
          (sequence (character '6') (sequence (character '5') (sequence (character '5')
            (sequence (character '3') (digitBetween '0' '5'))))))))

def portPattern : Pattern :=
  wholeLine (group true (either (atLeastAtMost (digitBetween '0' '9') 1 4) fiveDigitPattern))

/-- The patterns are the ones the fields are given. -/
example : ipPattern.text =
    ("^(?:(?:25[0-5]|2[0-4][0-9]|[01]?[0-9][0-9]?)\\.)\x7b3\x7d" ++
      "(?:25[0-5]|2[0-4][0-9]|[01]?[0-9][0-9]?)$").toList := by
  decide

example : portPattern.text =
    ("^([0-9]\x7b1,4\x7d|[1-5][0-9]\x7b4\x7d|6[0-4][0-9]\x7b3\x7d|65[0-4][0-9]\x7b2\x7d|" ++
      "655[0-2][0-9]|6553[0-5])$").toList := by
  decide

def IsDigit (unit : UInt16) : Prop := 48 ≤ unit.toNat ∧ unit.toNat ≤ 57

def decimalValue (s : NSString) : Nat :=
  s.foldl (fun value unit => 10 * value + (unit.toNat - 48)) 0

/-- One to three digits of a value that fits a byte. -/
structure IsOctet (s : NSString) : Prop where
  length : 1 ≤ s.length ∧ s.length ≤ 3
  digits : ∀ unit ∈ s, IsDigit unit
  value : decimalValue s ≤ 255

/-- Four octets, separated by single dots. -/
def IsDottedQuad (s : NSString) : Prop :=
  ∃ a b c d, IsOctet a ∧ IsOctet b ∧ IsOctet c ∧ IsOctet d ∧
    s = a ++ codeUnit '.' :: b ++ codeUnit '.' :: c ++ codeUnit '.' :: d

/-- Up to four digits, or five that do not start with a zero and are the number of a port. -/
structure IsPort (s : NSString) : Prop where
  digits : ∀ unit ∈ s, IsDigit unit
  number : (1 ≤ s.length ∧ s.length ≤ 4) ∨
    (s.length = 5 ∧ s.head? ≠ some (codeUnit '0') ∧ decimalValue s ≤ 65535)

private theorem units_digitBetween (first last : Char) (hlast : last.toNat < 55296) :
    Units ((digitBetween first last).language codeUnit) fun unit =>
      first.toNat ≤ unit.toNat ∧ unit.toNat ≤ last.toNat := by
  apply (units_oneOf codeUnit [(first, last)]).congr
  intro unit
  simp only [List.flatMap_cons, List.flatMap_nil, List.append_nil, charactersOf, List.map_map,
    List.mem_map, List.mem_range'_1, Function.comp_apply]
  have hcode : ∀ n, n < 55296 → (codeUnit (Char.ofNat n)).toNat = n := by
    intro n hn
    have hvalid : n.isValidChar := Or.inl hn
    have hn' : (Char.ofNat n).toNat = n := by
      rw [Char.ofNat, dif_pos hvalid]
      rfl
    rw [codeUnit, hn']
    simp only [Nat.toUInt16_eq, UInt16.toNat_ofNat']
    omega
  constructor
  · rintro ⟨n, hn, rfl⟩
    rw [hcode n (by omega)]
    omega
  · intro hunit
    refine ⟨unit.toNat, by omega, ?_⟩
    apply UInt16.toNat_inj.mp
    exact hcode _ (by omega)

private theorem units_digit (digit : Char) (hdigit : digit.toNat < 55296) :
    Units ((character digit).language codeUnit) fun unit => unit.toNat = digit.toNat := by
  apply (units_character codeUnit digit).congr
  intro unit
  rw [← UInt16.toNat_inj, codeUnit, Nat.toUInt16_eq, UInt16.toNat_ofNat', Nat.mod_eq_of_lt]
  omega

private theorem units_zeroOrOne :
    Units ((oneOf [('0', '0'), ('1', '1')]).language codeUnit) fun unit => unit.toNat ≤ 49 ∧
      48 ≤ unit.toNat := by
  apply (units_oneOf codeUnit _).congr
  intro unit
  have hunits : ([('0', '0'), ('1', '1')].flatMap charactersOf).map codeUnit = [48, 49] := by
    decide
  rw [hunits, List.mem_pair, ← UInt16.toNat_inj, ← UInt16.toNat_inj]
  show unit.toNat = 48 ∨ unit.toNat = 49 ↔ _
  omega

private theorem octet_language (s : NSString) :
    s ∈ octetPattern.language codeUnit ↔ IsOctet s := by
  have htwo := units_digit '2' (by decide)
  have hfive := units_digit '5' (by decide)
  have hto1 := units_zeroOrOne
  have hto4 := units_digitBetween '0' '4' (by decide)
  have hto5 := units_digitBetween '0' '5' (by decide)
  have hto9 := units_digitBetween '0' '9' (by decide)
  have hcases : IsOctet s ↔ (1 ≤ s.length ∧ s.length ≤ 3) ∧ (∀ unit ∈ s, IsDigit unit) ∧
      decimalValue s ≤ 255 :=
    ⟨fun h => ⟨h.length, h.digits, h.value⟩, fun h => ⟨h.1, h.2.1, h.2.2⟩⟩
  rw [hcases]
  simp only [octetPattern, language_group, language_either, language_sequence, language_optional,
    add_mul, one_mul, Language.mem_add]
  rcases s with _ | ⟨a, _ | ⟨b, _ | ⟨c, _ | ⟨d, s⟩⟩⟩⟩
  · simp [htwo.nil_mem_mul, hto9.nil_mem_mul, hto1.nil_mem_mul]
  · simp [htwo.cons_mem_mul, hfive.nil_mem_mul, hto4.nil_mem_mul, hto9.cons_mem_mul,
      hto1.cons_mem_mul, Language.mem_add, hto9.nil_mem, hto9.nil_mem_mul, IsDigit, decimalValue]
    omega
  · simp [htwo.cons_mem_mul, hfive.cons_mem_mul, hto4.cons_mem_mul, hto9.cons_mem_mul,
      hto1.cons_mem_mul, Language.mem_add, hto9.nil_mem, hto9.cons_mem, hto5.nil_mem, IsDigit,
      decimalValue]
    omega
  · simp [htwo.cons_mem_mul, hfive.cons_mem_mul, hto4.cons_mem_mul, hto9.cons_mem_mul,
      hto1.cons_mem_mul, Language.mem_add, hto9.cons_mem, hto5.cons_mem, IsDigit,
      decimalValue]
    omega
  · simp [htwo.cons_mem_mul, hfive.cons_mem_mul, hto4.cons_mem_mul, hto9.cons_mem_mul,
      hto1.cons_mem_mul, Language.mem_add, hto9.cons_mem, hto5.cons_mem]

private theorem ipPattern_accepts_iff (s : NSString) :
    ipPattern.accepts codeUnit s = true ↔ IsDottedQuad s := by
  have hlanguage : ipPattern.language codeUnit =
      (octetPattern.language codeUnit * {[codeUnit '.']}) ^ 3 *
        octetPattern.language codeUnit := by
    rw [ipPattern, language_wholeLine, language_sequence, language_times, language_group,
      language_sequence]
    rfl
  rw [accepts_iff, hlanguage, mem_separated]
  constructor
  · rintro ⟨parts, hlength, hparts, rfl⟩
    obtain ⟨a, b, c, d, rfl⟩ := List.length_eq_four.mp hlength
    have hoctet : ∀ part ∈ [a, b, c, d], IsOctet part := by
      intro part hpart
      exact (octet_language part).mp (hparts part hpart)
    refine ⟨a, b, c, d, hoctet a (by simp), hoctet b (by simp), hoctet c (by simp),
      hoctet d (by simp), ?_⟩
    simp [List.intercalate]
  · rintro ⟨a, b, c, d, ha, hb, hc, hd, rfl⟩
    refine ⟨[a, b, c, d], rfl, ?_, by simp [List.intercalate]⟩
    simp only [List.forall_mem_cons, octet_language]
    exact ⟨ha, hb, hc, hd, by simp⟩

private theorem fiveDigits_le {a b c d e : Nat} (hb : b ≤ 9) (hc : c ≤ 9) (hd : d ≤ 9)
    (he : e ≤ 9) :
    10 * (10 * (10 * (10 * a + b) + c) + d) + e ≤ 65535 ↔
      a ≤ 5 ∨ a = 6 ∧ (b ≤ 4 ∨ b = 5 ∧ (c ≤ 4 ∨ c = 5 ∧ (d ≤ 2 ∨ d = 3 ∧ e ≤ 5))) := by
  omega

private theorem isDigit_iff (unit : UInt16) : IsDigit unit ↔ ∃ d ≤ 9, unit.toNat = 48 + d := by
  constructor
  · rintro ⟨hfirst, hlast⟩
    exact ⟨unit.toNat - 48, by omega, by omega⟩
  · rintro ⟨d, hd, hunit⟩
    exact ⟨by omega, by omega⟩

theorem fiveDigits_cases (a b c d e : UInt16) :
    ((49 ≤ a.toNat ∧ a.toNat ≤ 53) ∧ (48 ≤ b.toNat ∧ b.toNat ≤ 57) ∧
        (48 ≤ c.toNat ∧ c.toNat ≤ 57) ∧ (48 ≤ d.toNat ∧ d.toNat ≤ 57) ∧
          48 ≤ e.toNat ∧ e.toNat ≤ 57 ∨
      a.toNat = 54 ∧ (48 ≤ b.toNat ∧ b.toNat ≤ 52) ∧ (48 ≤ c.toNat ∧ c.toNat ≤ 57) ∧
        (48 ≤ d.toNat ∧ d.toNat ≤ 57) ∧ 48 ≤ e.toNat ∧ e.toNat ≤ 57 ∨
      a.toNat = 54 ∧ b.toNat = 53 ∧ (48 ≤ c.toNat ∧ c.toNat ≤ 52) ∧
        (48 ≤ d.toNat ∧ d.toNat ≤ 57) ∧ 48 ≤ e.toNat ∧ e.toNat ≤ 57 ∨
      a.toNat = 54 ∧ b.toNat = 53 ∧ c.toNat = 53 ∧ (48 ≤ d.toNat ∧ d.toNat ≤ 50) ∧
        48 ≤ e.toNat ∧ e.toNat ≤ 57 ∨
      a.toNat = 54 ∧ b.toNat = 53 ∧ c.toNat = 53 ∧ d.toNat = 51 ∧ 48 ≤ e.toNat ∧ e.toNat ≤ 53) ↔
    (IsDigit a ∧ IsDigit b ∧ IsDigit c ∧ IsDigit d ∧ IsDigit e) ∧ ¬ a.toNat = 48 ∧
      10 * (10 * (10 * (10 * (a.toNat - 48) + (b.toNat - 48)) + (c.toNat - 48)) +
        (d.toNat - 48)) + (e.toNat - 48) ≤ 65535 := by
  by_cases hdigits : IsDigit a ∧ IsDigit b ∧ IsDigit c ∧ IsDigit d ∧ IsDigit e
  · obtain ⟨ha, hb, hc, hd, he⟩ := hdigits
    obtain ⟨x, hx, hxa⟩ := (isDigit_iff a).mp ha
    obtain ⟨y, hy, hyb⟩ := (isDigit_iff b).mp hb
    obtain ⟨z, hz, hzc⟩ := (isDigit_iff c).mp hc
    obtain ⟨u, hu, hud⟩ := (isDigit_iff d).mp hd
    obtain ⟨v, hv, hve⟩ := (isDigit_iff e).mp he
    have hvalue := fiveDigits_le (a := x) hy hz hu hv
    simp only [ha, hb, hc, hd, he, hxa, hyb, hzc, hud, hve, Nat.add_sub_cancel_left, hvalue,
      true_and]
    constructor
    · rintro (h | h | h | h | h)
      · exact ⟨by omega, Or.inl (by omega)⟩
      · exact ⟨by omega, Or.inr ⟨by omega, Or.inl (by omega)⟩⟩
      · exact ⟨by omega, Or.inr ⟨by omega, Or.inr ⟨by omega, Or.inl (by omega)⟩⟩⟩
      · exact ⟨by omega, by omega⟩
      · exact ⟨by omega, by omega⟩
    · rintro ⟨hnonzero, h | ⟨h6, h | ⟨h5, h | ⟨h5', h | ⟨h3, h⟩⟩⟩⟩⟩
      · exact Or.inl (by omega)
      · exact Or.inr (Or.inl (by omega))
      · exact Or.inr (Or.inr (Or.inl (by omega)))
      · exact Or.inr (Or.inr (Or.inr (Or.inl (by omega))))
      · exact Or.inr (Or.inr (Or.inr (Or.inr (by omega))))
  · simp only [hdigits, false_and, iff_false]
    intro hmatch
    apply hdigits
    simp only [IsDigit]
    omega

private theorem fiveDigit_language (s : NSString) :
    s ∈ fiveDigitPattern.language codeUnit ↔ (∀ unit ∈ s, IsDigit unit) ∧ s.length = 5 ∧
      s.head? ≠ some (codeUnit '0') ∧ decimalValue s ≤ 65535 := by
  have hthree := units_digit '3' (by decide)
  have hfive := units_digit '5' (by decide)
  have hsix := units_digit '6' (by decide)
  have hto2 := units_digitBetween '0' '2' (by decide)
  have hto4 := units_digitBetween '0' '4' (by decide)
  have hto5 := units_digitBetween '0' '5' (by decide)
  have hfrom1 := units_digitBetween '1' '5' (by decide)
  have hto9 := units_digitBetween '0' '9' (by decide)
  simp only [fiveDigitPattern, language_either, language_sequence, language_times,
    Language.mem_add]
  rcases s with _ | ⟨a, _ | ⟨b, _ | ⟨c, _ | ⟨d, _ | ⟨e, _ | ⟨f, s⟩⟩⟩⟩⟩⟩
  · simp [hfrom1.nil_mem_mul, hsix.nil_mem_mul]
  · simp [hfrom1.cons_mem_mul, hsix.cons_mem_mul, hto4.nil_mem_mul, hfive.nil_mem_mul,
      hto9.mem_pow]
  · simp [hfrom1.cons_mem_mul, hsix.cons_mem_mul, hto4.cons_mem_mul, hto4.nil_mem_mul,
      hfive.cons_mem_mul, hfive.nil_mem_mul, hto9.mem_pow]
  · simp [hfrom1.cons_mem_mul, hsix.cons_mem_mul, hto4.cons_mem_mul, hfive.cons_mem_mul,
      hto2.nil_mem_mul, hthree.nil_mem_mul, hto9.mem_pow]
  · simp [hfrom1.cons_mem_mul, hsix.cons_mem_mul, hto4.cons_mem_mul, hfive.cons_mem_mul,
      hto2.cons_mem_mul, hthree.cons_mem_mul, hto9.nil_mem, hto5.nil_mem, hto9.mem_pow]
  · have hzero : a = codeUnit '0' ↔ a.toNat = 48 := by
      rw [← UInt16.toNat_inj]
      rfl
    simp [hfrom1.cons_mem_mul, hsix.cons_mem_mul, hto4.cons_mem_mul, hfive.cons_mem_mul,
      hto2.cons_mem_mul, hthree.cons_mem_mul, hto9.cons_mem, hto5.cons_mem, hto9.mem_pow,
      decimalValue, hzero]
    exact fiveDigits_cases a b c d e
  · simp [hfrom1.cons_mem_mul, hsix.cons_mem_mul, hto4.cons_mem_mul, hfive.cons_mem_mul,
      hto2.cons_mem_mul, hthree.cons_mem_mul, hto9.cons_mem, hto5.cons_mem, hto9.mem_pow]

private theorem portPattern_accepts_iff (s : NSString) :
    portPattern.accepts codeUnit s = true ↔ IsPort s := by
  have hto9 := units_digitBetween '0' '9' (by decide)
  have hcases : IsPort s ↔ (∀ unit ∈ s, IsDigit unit) ∧ ((1 ≤ s.length ∧ s.length ≤ 4) ∨
      (s.length = 5 ∧ s.head? ≠ some (codeUnit '0') ∧ decimalValue s ≤ 65535)) :=
    ⟨fun h => ⟨h.digits, h.number⟩, fun h => ⟨h.1, h.2⟩⟩
  rw [accepts_iff, hcases, portPattern, language_wholeLine, language_group, language_either,
    Language.mem_add, language_atLeastAtMost, hto9.mem_counted, fiveDigit_language, and_or_left]
  exact or_congr_left and_comm

/-- The field for the address accepts dotted quads, the field for the port accepts port numbers, and
neither accepts anything else. -/
theorem addressForm_accepts_iff (s : NSString) :
    (ipPattern.accepts codeUnit s = true ↔ IsDottedQuad s) ∧
      (portPattern.accepts codeUnit s = true ↔ IsPort s) :=
  ⟨ipPattern_accepts_iff s, portPattern_accepts_iff s⟩

end IPAddressViewController

end CrowdSound
