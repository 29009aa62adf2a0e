import MaskedList.Text.Lossy

/-!
# ASCII in bytes that are read as text

Whatever bytes are read as text, those of ASCII are shown as the characters that they are, and
nothing else is shown as one of these: a character of several bytes lies past ASCII, so does the
replacement for an invalid piece, and neither takes up a byte of ASCII.
-/

namespace MaskedList
namespace Bytes

/-- A character past ASCII was taken from the front of the bytes, together with none of ASCII. -/
inductive PastAscii : (bytes : Bytes) → (taken : Char × Bytes) → Prop where
  | here {c : Char} {rest : Bytes} (hchar : 0x80 ≤ c.toNat) : PastAscii rest (c, rest)
  | behind {byte : UInt8} {rest : Bytes} {taken : Char × Bytes} (hbyte : 0x80 ≤ byte.toNat)
      (h : PastAscii rest taken) : PastAscii (byte :: rest) taken

section Bounds

variable {lead second byte low high : UInt8}

theorem toNat_of_between (h : (low ≤ byte && byte ≤ high) = true) :
    low.toNat ≤ byte.toNat ∧ byte.toNat ≤ high.toNat := by
  simpa [UInt8.le_iff_toNat_le] using h

theorem toNat_of_isContinuation (h : isContinuation byte = true) :
    0x80 ≤ byte.toNat ∧ byte.toNat ≤ 0xBF :=
  toNat_of_between h

/-- A second byte is a continuation. Behind the least first byte it starts later, and behind the
one before a gap it ends earlier. -/
theorem toNat_of_second {least last : UInt8} (hne : least ≠ last) (hlow : 0x80 ≤ low.toNat)
    (hhigh : high.toNat ≤ 0xBF)
    (h : (if lead = least then low ≤ second && second ≤ 0xBF
      else if lead = last then 0x80 ≤ second && second ≤ high
      else isContinuation second) = true) :
    0x80 ≤ second.toNat ∧ second.toNat ≤ 0xBF ∧
      (lead.toNat = least.toNat → low.toNat ≤ second.toNat) ∧
      (lead.toNat = last.toNat → second.toNat ≤ high.toNat) := by
  simp only [UInt8.toNat_inj]
  split at h
  · rename_i hleast
    have hbounds := toNat_of_between h
    exact ⟨Nat.le_trans hlow hbounds.1, hbounds.2, fun _ => hbounds.1,
      fun hlast => absurd (hleast.symm.trans hlast) hne⟩
  split at h
  · rename_i hleast hlast
    have hbounds := toNat_of_between h
    exact ⟨hbounds.1, Nat.le_trans hbounds.2 hhigh, fun heq => absurd heq hleast,
      fun _ => hbounds.2⟩
  · rename_i hleast hlast
    have hbounds := toNat_of_isContinuation h
    exact ⟨hbounds.1, hbounds.2, fun heq => absurd heq hleast, fun heq => absurd heq hlast⟩

theorem toNat_of_isSecondOfThree (h : isSecondOfThree lead second = true) :
    0x80 ≤ second.toNat ∧ second.toNat ≤ 0xBF ∧
      (lead.toNat = 0xE0 → 0xA0 ≤ second.toNat) ∧
      (lead.toNat = 0xED → second.toNat ≤ 0x9F) :=
  toNat_of_second (by decide) (by decide) (by decide) h

theorem toNat_of_isSecondOfFour (h : isSecondOfFour lead second = true) :
    0x80 ≤ second.toNat ∧ second.toNat ≤ 0xBF ∧
      (lead.toNat = 0xF0 → 0x90 ≤ second.toNat) ∧
      (lead.toNat = 0xF4 → second.toNat ≤ 0x8F) :=
  toNat_of_second (by decide) (by decide) (by decide) h

end Bounds

/-! ## Characters of several bytes -/

theorem toNat_ofNat_of_isValidChar {code : Nat} (hvalid : code.isValidChar) :
    (Char.ofNat code).toNat = code := by
  rw [Char.ofNat, dif_pos hvalid]
  rfl

theorem le_toNat_ofNat {code : Nat} (hlow : 0x80 ≤ code) (hvalid : code.isValidChar) :
    0x80 ≤ (Char.ofNat code).toNat := by
  rwa [toNat_ofNat_of_isValidChar hvalid]

variable {lead second third fourth : UInt8}

theorem pastAscii_two (hlead : (0xC2 ≤ lead && lead ≤ 0xDF) = true)
    (hsecond : isContinuation second = true) (rest : Bytes) :
    PastAscii (second :: rest)
      (Char.ofNat (addContinuation (lead.toNat % 32) second), rest) := by
  have hlead : 0xC2 ≤ lead.toNat ∧ lead.toNat ≤ 0xDF := toNat_of_between hlead
  have := toNat_of_isContinuation hsecond
  refine .behind this.1 (.here (le_toNat_ofNat ?_ (.inl ?_))) <;>
    simp only [addContinuation] <;> omega

theorem pastAscii_three (hlead : (0xE0 ≤ lead && lead ≤ 0xEF) = true)
    (hsecond : isSecondOfThree lead second = true) (hthird : isContinuation third = true)
    (rest : Bytes) :
    PastAscii (second :: third :: rest)
      (Char.ofNat (addContinuation (addContinuation (lead.toNat % 16) second) third), rest) := by
  have hlead : 0xE0 ≤ lead.toNat ∧ lead.toNat ≤ 0xEF := toNat_of_between hlead
  obtain ⟨hlow, hhigh, hshortest, hsurrogate⟩ := toNat_of_isSecondOfThree hsecond
  have hthird := toNat_of_isContinuation hthird
  refine .behind hlow (.behind hthird.1 (.here (le_toNat_ofNat ?_ ?_)))
  · simp only [addContinuation]
    omega
  · simp only [addContinuation, Nat.isValidChar]
    omega

theorem pastAscii_four (hlead : (0xF0 ≤ lead && lead ≤ 0xF4) = true)
    (hsecond : isSecondOfFour lead second = true) (hthird : isContinuation third = true)
    (hfourth : isContinuation fourth = true) (rest : Bytes) :
    PastAscii (second :: third :: fourth :: rest)
      (Char.ofNat (addContinuation
        (addContinuation (addContinuation (lead.toNat % 8) second) third) fourth), rest) := by
  have hlead : 0xF0 ≤ lead.toNat ∧ lead.toNat ≤ 0xF4 := toNat_of_between hlead
  obtain ⟨hlow, hhigh, hshortest, hlast⟩ := toNat_of_isSecondOfFour hsecond
  have hthird := toNat_of_isContinuation hthird
  have hfourth := toNat_of_isContinuation hfourth
  refine .behind hlow (.behind hthird.1 (.behind hfourth.1 (.here (le_toNat_ofNat ?_ ?_))))
  · simp only [addContinuation]
    omega
  · simp only [addContinuation, Nat.isValidChar]
    omega

theorem pastAscii_replacement (rest : Bytes) : PastAscii rest (replacement, rest) :=
  .here (by decide)

/-- A byte past ASCII begins a character past ASCII or an invalid piece. -/
theorem pastAscii_takeChar (hlead : ¬ lead < 0x80) (rest : Bytes) :
    PastAscii rest (takeChar lead rest) := by
  unfold takeChar
  rw [if_neg hlead]
  -- along the lengths that the first byte may call for, and the bytes behind it as they come
  split
  · rename_i hlength
    split
    · split
      · rename_i hsecond
        exact pastAscii_two hlength hsecond _
      · exact pastAscii_replacement _
    · exact pastAscii_replacement _
  split
  · rename_i hlength
    split
    · split
      · rename_i hsecond
        have hcontinued := (toNat_of_isSecondOfThree hsecond).1
        split
        · split
          · rename_i hthird
            exact pastAscii_three hlength hsecond hthird _
          · exact .behind hcontinued (pastAscii_replacement _)
        · exact .behind hcontinued (pastAscii_replacement _)
      · exact pastAscii_replacement _
    · exact pastAscii_replacement _
  split
  · rename_i hlength
    split
    · split
      · rename_i hsecond
        have hcontinued := (toNat_of_isSecondOfFour hsecond).1
        split
        · split
          · rename_i hthird
            have hfurther := (toNat_of_isContinuation hthird).1
            split
            · split
              · rename_i hfourth
                exact pastAscii_four hlength hsecond hthird hfourth _
              · exact .behind hcontinued (.behind hfurther (pastAscii_replacement _))
            · exact .behind hcontinued (.behind hfurther (pastAscii_replacement _))
          · exact .behind hcontinued (pastAscii_replacement _)
        · exact .behind hcontinued (pastAscii_replacement _)
      · exact pastAscii_replacement _
    · exact pastAscii_replacement _
  · exact pastAscii_replacement _

/-! ## How often a character is shown -/

variable {c : Char} {bytes : Bytes} {taken : Char × Bytes}

theorem PastAscii.char_ne (h : PastAscii bytes taken) (hc : c.toNat < 0x80) : taken.1 ≠ c := by
  induction h with
  | @here other rest hchar =>
    intro heq
    rw [← heq] at hc
    exact Nat.not_le_of_lt hc hchar
  | behind hbyte h ih => exact ih

theorem PastAscii.count_eq (h : PastAscii bytes taken) {byte : UInt8} (hbyte : byte.toNat < 0x80) :
    bytes.count byte = taken.2.count byte := by
  induction h with
  | here hchar => rfl
  | @behind other rest taken hother h ih =>
    have hne : other ≠ byte := by
      rintro rfl
      exact Nat.not_le_of_lt hbyte hother
    rw [List.count_cons_of_ne hne, ih]

theorem takeChar_of_lt (hlead : lead < 0x80) (rest : Bytes) :
    takeChar lead rest = (Char.ofNat lead.toNat, rest) := by
  unfold takeChar
  rw [if_pos hlead]

/-- A byte of ASCII is shown as the character with its code. -/
theorem ofNat_toNat_eq_iff (hlead : lead < 0x80) (hc : c.toNat < 0x80) :
    Char.ofNat lead.toNat = c ↔ lead = UInt8.ofNat c.toNat := by
  have hcode : lead.toNat < 0x80 := UInt8.lt_iff_toNat_lt.mp hlead
  constructor
  · rintro rfl
    rw [toNat_ofNat_of_isValidChar (.inl (by omega)), UInt8.ofNat_toNat]
  · rintro rfl
    rw [UInt8.toNat_ofNat', Nat.mod_eq_of_lt (by omega), Char.ofNat_toNat]

/-- A character of ASCII is shown as often as its byte is there. -/
theorem count_lossyChars (hc : c.toNat < 0x80) (bytes : Bytes) (shown : List Char) :
    (lossyChars bytes shown).count c = bytes.count (UInt8.ofNat c.toNat) + shown.count c := by
  have hbyte : (UInt8.ofNat c.toNat).toNat < 0x80 := by
    rw [UInt8.toNat_ofNat', Nat.mod_eq_of_lt (by omega)]
    exact hc
  -- along the characters as they are taken
  induction bytes, shown using lossyChars.induct with
  | case1 shown => simp [lossyChars]
  | case2 lead rest shown ih =>
    rw [lossyChars, ih]
    by_cases hlead : lead < 0x80
    · rw [takeChar_of_lt hlead]
      change rest.count _ + (Char.ofNat lead.toNat :: shown).count c = _
      by_cases hsame : lead = UInt8.ofNat c.toNat
      · rw [(ofNat_toNat_eq_iff hlead hc).mpr hsame, hsame, List.count_cons_self,
          List.count_cons_self]
        omega
      · have hother := (not_congr (ofNat_toNat_eq_iff hlead hc)).mpr hsame
        rw [List.count_cons_of_ne hother, List.count_cons_of_ne hsame]
    · have hpast := pastAscii_takeChar hlead rest
      have hother : lead ≠ UInt8.ofNat c.toNat := by
        rintro rfl
        exact hlead (UInt8.lt_iff_toNat_lt.mpr hbyte)
      rw [List.count_cons_of_ne (hpast.char_ne hc), List.count_cons_of_ne hother,
        hpast.count_eq hbyte]

/-- Reading bytes as text neither adds a character of ASCII nor loses one. -/
theorem count_toTextLossy (hc : c.toNat < 0x80) (bytes : Bytes) :
    (toTextLossy bytes).toList.count c = bytes.count (UInt8.ofNat c.toNat) := by
  rw [toTextLossy, String.toList_ofList, List.count_reverse, count_lossyChars hc,
    List.count_nil, Nat.add_zero]

end Bytes
end MaskedList
