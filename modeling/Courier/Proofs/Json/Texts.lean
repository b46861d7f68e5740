import Courier.Json.Printer
import Courier.Json.Record

/-!
# Texts — what the readers of scalars make of what was printed

Octets of characters, digits of numbers and escapes of strings.  A number reads back if it fits
sixty-four bits and what follows ends it (`Ends`), a string reads back whatever characters it is
made of: one character at a time, since each is escaped alone.
-/

namespace Courier

namespace Text.Utf8

/-- The octets of some characters. -/
def octets (chars : List Char) : List UInt8 :=
  chars.flatMap String.utf8EncodeChar

theorem octets_append (xs ys : List Char) : octets (xs ++ ys) = octets xs ++ octets ys :=
  List.flatMap_append

theorem octets_cons (c : Char) (cs : List Char) :
    octets (c :: cs) = String.utf8EncodeChar c ++ octets cs :=
  List.flatMap_cons

theorem toList_loop (bytes : ByteArray) (i : Nat) (done : List UInt8) :
    ByteArray.toList.loop bytes i done = done.reverse ++ bytes.data.toList.drop i := by
  fun_induction ByteArray.toList.loop bytes i done with
  | case1 i done h ih =>
      rw [ih]
      have hlt : i < bytes.data.toList.length := by simpa using h
      rw [List.drop_eq_getElem_cons hlt]
      simp [ByteArray.get!, h]
  | case2 i done h =>
      rw [List.drop_eq_nil_of_le (by simpa using h), List.append_nil]

theorem encode_ofList (chars : List Char) : encode (String.ofList chars) = octets chars := by
  rw [encode, String.toByteArray_ofList, ByteArray.toList, toList_loop]
  simp [List.utf8Encode, octets]

/-- What was written reads back. -/
theorem decode_octets (s : String) : decode? (octets s.toList) = some s := by
  have h : ByteArray.mk (octets s.toList).toArray = s.toByteArray := by
    rw [← String.utf8Encode_toList, List.utf8Encode]
    exact ByteArray.ext List.data_toByteArray.symm
  rw [decode?, h, String.fromUTF8?, dif_pos s.isValidUTF8]
  rfl

/-- A character of ASCII is one octet. -/
theorem octets_ascii {c : Char} (h : c.toNat < 128) :
    String.utf8EncodeChar c = [UInt8.ofNat c.toNat] := by
  rw [String.utf8EncodeChar]
  exact if_pos (Nat.le_of_lt_succ h)

/-- No octet of another character is one of ASCII. -/
theorem octets_wide {c : Char} (h : 128 ≤ c.toNat) :
    ∀ b ∈ String.utf8EncodeChar c, 128 ≤ b.toNat := by
  have hwide : ¬ c.val.toNat ≤ 127 := Nat.not_le_of_lt h
  rw [String.utf8EncodeChar, if_neg hwide]
  split
  · simp
    omega
  · split
    · simp
      omega
    · simp
      omega

/-- The octet of a character of ASCII is that character. -/
theorem toNat_octet {c : Char} (h : c.toNat < 128) : (UInt8.ofNat c.toNat).toNat = c.toNat := by
  rw [UInt8.toNat_ofNat']
  omega

theorem char_octet {c : Char} (h : c.toNat < 128) :
    Char.ofNat (UInt8.ofNat c.toNat).toNat = c := by
  rw [toNat_octet h, Char.ofNat_toNat]

end Text.Utf8

namespace Json

open Text Text.Utf8

/-! ## Digits -/

/-- Where no number goes on: at the end, at a blank, at a comma and at the end of an object. -/
def Ends (rest : List UInt8) : Prop :=
  ∀ b ∈ rest.head?, isBlank b = true ∨ b = 44 ∨ b = 125

/-- What ends a number is no digit, no point and no exponent. -/
theorem Ends.stops {rest : List UInt8} (h : Ends rest) :
    atDigit rest = false ∧ peek rest ≠ some '.' ∧ atExponent rest = false := by
  cases rest with
  | nil => exact ⟨rfl, nofun, rfl⟩
  | cons b rest =>
      have hall : ∀ b : UInt8, isBlank b = true ∨ b = 44 ∨ b = 125 →
          atDigit [b] = false ∧ peek [b] ≠ some '.' ∧ atExponent [b] = false := by
        intro b hb
        have hb' : b = 32 ∨ b = 10 ∨ b = 9 ∨ b = 13 ∨ b = 44 ∨ b = 125 := by
          simpa [isBlank, or_assoc] using hb
        rcases hb' with rfl | rfl | rfl | rfl | rfl | rfl <;> decide
      exact hall b (h b rfl)

theorem digit_range {c : Char} (h : c.isDigit = true) : 48 ≤ c.toNat ∧ c.toNat ≤ 57 := by
  rw [Char.isDigit, Bool.and_eq_true] at h
  exact ⟨of_decide_eq_true h.1, of_decide_eq_true h.2⟩

/-- A decimal digit is ASCII, and has its value. -/
theorem digit_octet {c : Char} (h : c.isDigit = true) :
    String.utf8EncodeChar c = [UInt8.ofNat c.toNat] ∧
      digit? (UInt8.ofNat c.toNat) = some (c.toNat - 48) := by
  have hrange := digit_range h
  have hascii : c.toNat < 128 := by omega
  refine ⟨octets_ascii hascii, ?_⟩
  rw [digit?, toNat_octet hascii, if_pos hrange]

/-- Digits after a number make it no less. -/
theorem le_ofDigitChars (cs : List Char) (value : Nat) : value ≤ Nat.ofDigitChars 10 cs value := by
  induction cs generalizing value with
  | nil => simp
  | cons c cs ih =>
      rw [Nat.ofDigitChars_cons]
      exact Nat.le_trans (by omega) (ih _)

/-- Digits are read to their end, if they do not go past the limit. -/
theorem digitsUpTo_octets {limit : Nat} {rest : List UInt8} (hrest : atDigit rest = false)
    {cs : List Char} (hdigits : ∀ c ∈ cs, c.isDigit = true) {value : Nat} (count : Nat)
    (hlimit : Nat.ofDigitChars 10 cs value ≤ limit) :
    digitsUpTo limit value count (octets cs ++ rest)
      = (Nat.ofDigitChars 10 cs value, count + cs.length, rest) := by
  induction cs generalizing value count with
  | nil =>
      rw [Nat.ofDigitChars_nil]
      show digitsUpTo limit value count rest = _
      cases rest with
      | nil => rfl
      | cons b rest =>
          have hnone : digit? b = none := by
            rw [atDigit] at hrest
            exact Option.not_isSome_iff_eq_none.mp (by simp [hrest])
          rw [digitsUpTo, hnone]
          rfl
  | cons c cs ih =>
      obtain ⟨hc, hcs⟩ := List.forall_mem_cons.mp hdigits
      obtain ⟨hone, hvalue⟩ := digit_octet hc
      rw [Nat.ofDigitChars_cons] at hlimit ⊢
      -- the limit holds of the first digits, since further digits make a number no less
      have hle := Nat.le_trans (le_ofDigitChars cs _) hlimit
      have hsame : 10 * value + (c.toNat - '0'.toNat) = value * 10 + (c.toNat - 48) := by
        rw [Nat.mul_comm]
        rfl
      rw [hsame] at hle hlimit ⊢
      rw [octets_cons, hone, List.append_assoc, List.singleton_append, digitsUpTo, hvalue]
      dsimp only
      rw [if_neg (Nat.not_lt_of_le hle), ih hcs (count + 1) hlimit, List.length_cons,
        Nat.add_right_comm, Nat.add_assoc]

/-- The digits of a number begin with one that is not zero. -/
theorem toDigits_head (n : Nat) (h : 0 < n) : ∃ d cs, 0 < d ∧ d < 10 ∧
    Nat.toDigits 10 n = Nat.digitChar d :: cs := by
  induction n using Nat.strongRecOn with
  | ind n ih =>
      by_cases hlt : n < 10
      · exact ⟨n, [], h, hlt, Nat.toDigits_of_lt_base hlt⟩
      · obtain ⟨d, cs, hd, hd', heq⟩ := ih (n / 10) (by omega) (by omega)
        refine ⟨d, cs ++ [Nat.digitChar (n % 10)], hd, hd', ?_⟩
        rw [Nat.toDigits_of_base_le (by decide) (Nat.le_of_not_lt hlt), heq]
        rfl

/-- **A NUMBER READS BACK** that fits sixty-four bits. -/
theorem number_digits {n : Nat} (hn : n ≤ maxInteger) {rest : List UInt8} (hrest : Ends rest) :
    number true (octets (Numeral.digits n) ++ rest) = .ok (.int n, rest) := by
  obtain ⟨hdigit, hpoint, hexponent⟩ := hrest.stops
  have hwhole : ∀ m : Nat, afterWhole true m rest = .ok (.int m, rest) := by
    intro m
    rw [afterWhole, if_neg (by simpa using hpoint), hexponent]
    rfl
  rw [Numeral.digits]
  rcases Nat.eq_zero_or_pos n with rfl | hpos
  · have hzero : number true (48 :: rest) = .ok (.int 0, rest) := by
      rw [number]
      show (if atDigit rest = true then _ else _) = _
      rw [hdigit]
      exact hwhole 0
    rw [Nat.toDigits_zero]
    exact hzero
  · obtain ⟨d, cs, hd, hd', heq⟩ := toDigits_head n hpos
    have hdigits : ∀ c ∈ Nat.digitChar d :: cs, c.isDigit = true :=
      fun c hc => Nat.isDigit_of_mem_toDigits (by decide) (by decide) (heq ▸ hc)
    obtain ⟨hfirst, hmore⟩ := List.forall_mem_cons.mp hdigits
    obtain ⟨hone, hvalue⟩ := digit_octet hfirst
    have hsub : (Nat.digitChar d).toNat - 48 = d := Nat.toNat_digitChar_sub_48_of_lt_ten hd'
    have hvalues : Nat.ofDigitChars 10 cs d = n := by
      have hall := Nat.ofDigitChars_ten_toDigits (n := n)
      rw [heq, Nat.ofDigitChars_cons_digitChar_of_lt_ten hd'] at hall
      simpa using hall
    have hread := digitsUpTo_octets hdigit hmore 0 (hvalues ▸ hn)
    rw [heq, octets_cons, hone, List.append_assoc, List.singleton_append, number, hvalue, hsub]
    obtain ⟨k, rfl⟩ : ∃ k, d = k + 1 := ⟨d - 1, by omega⟩
    show (if atDigit (digitsUpTo maxInteger (k + 1) 0 (octets cs ++ rest)).2.2 = true then _
      else afterWhole true _ _) = _
    rw [hread, hvalues, hdigit]
    exact hwhole n

/-! ## Strings -/

/-- An escape inside a string stands for the octets that it stands for. -/
theorem stringOctets_escape {rest after octs : List UInt8} (h : escape rest = .ok (octs, after))
    (done : List UInt8) :
    stringOctets done (92 :: rest) = stringOctets (octs.reverse ++ done) after := by
  rw [stringOctets, if_neg (by decide), if_pos rfl]
  split
  · rename_i heq
    cases heq.symm.trans h
  · rename_i heq
    cases heq.symm.trans h
    rfl

/-- Every other octet stands for itself, if it is no control character and does not end the
    string. -/
theorem stringOctets_plain {b : UInt8} (hquote : b ≠ 34) (hslash : b ≠ 92) (hcontrol : ¬ b < 32)
    (done rest : List UInt8) :
    stringOctets done (b :: rest) = stringOctets (b :: done) rest := by
  rw [stringOctets, if_neg hquote, if_neg hslash, if_neg hcontrol]

/-- The octets of a character that is not ASCII stand for themselves. -/
theorem stringOctets_wide {octs : List UInt8} (h : ∀ b ∈ octs, 128 ≤ b.toNat)
    (done rest : List UInt8) :
    stringOctets done (octs ++ rest) = stringOctets (octs.reverse ++ done) rest := by
  induction octs generalizing done with
  | nil => rfl
  | cons b octs ih =>
      obtain ⟨hb, hoctets⟩ := List.forall_mem_cons.mp h
      have hne : ∀ n : UInt8, n.toNat < 128 → b ≠ n := by
        rintro n hn rfl
        omega
      have hcontrol : ¬ b < 32 := by
        have hspace : (32 : UInt8).toNat ≤ 128 := by decide
        rw [UInt8.lt_iff_toNat_lt]
        omega
      rw [List.cons_append, stringOctets_plain (hne 34 (by decide)) (hne 92 (by decide)) hcontrol,
        ih hoctets, List.reverse_cons, List.append_assoc, List.singleton_append]

/-- A hexadecimal digit is ASCII, and has its value. -/
theorem lowerHex_octet {n : Nat} (h : n < 16) : (Ascii.lowerHex n).toNat < 128 ∧
    Ascii.hexValue? (Ascii.lowerHex n) = some n := by
  have hall : ∀ n < 16, (Ascii.lowerHex n).toNat < 128 ∧
      Ascii.hexValue? (Ascii.lowerHex n) = some n := by decide
  exact hall n h

/-- A control character reads back from its number. -/
theorem escape_control {n : Nat} (h : n < 32) (rest : List UInt8) :
    escape (octets ['u', '0', '0', Ascii.lowerHex (n / 16), Ascii.lowerHex (n % 16)] ++ rest)
      = .ok (octetsOf n, rest) := by
  obtain ⟨hhigh, hhighValue⟩ := lowerHex_octet (n := n / 16) (by omega)
  obtain ⟨hlow, hlowValue⟩ := lowerHex_octet (n := n % 16) (by omega)
  have hzero : Ascii.hexValue? (Char.ofNat (48 : UInt8).toNat) = some 0 := by decide
  have hdigits : hexDigits (48 :: 48 :: UInt8.ofNat (Ascii.lowerHex (n / 16)).toNat ::
      UInt8.ofNat (Ascii.lowerHex (n % 16)).toNat :: rest) = .ok (n, rest) := by
    rw [hexDigits]
    simp only [List.mapM_cons, List.mapM_nil, hzero, char_octet hhigh, hhighValue,
      char_octet hlow, hlowValue]
    have hn : (n / 16) * 16 + n % 16 = n := Nat.div_add_mod' n 16
    show Except.ok ((((0 * 16 + 0) * 16 + 0) * 16 + n / 16) * 16 + n % 16, rest) = _
    simpa using hn
  have htext : octets ['u', '0', '0', Ascii.lowerHex (n / 16), Ascii.lowerHex (n % 16)] ++ rest
      = 117 :: 48 :: 48 :: UInt8.ofNat (Ascii.lowerHex (n / 16)).toNat ::
        UInt8.ofNat (Ascii.lowerHex (n % 16)).toNat :: rest := by
    rw [octets_cons, octets_cons, octets_cons, octets_cons, octets_cons, octets_ascii hhigh,
      octets_ascii hlow]
    rfl
  have hletter : Char.ofNat (117 : UInt8).toNat = 'u' := rfl
  rw [htext, escape]
  simp only [hletter, hdigits]
  rw [if_neg (by omega), if_neg (by omega)]

/-- **A CHARACTER READS BACK** from how it stands in a string. -/
theorem stringOctets_escapeChar (c : Char) (done rest : List UInt8) :
    stringOctets done (octets (escapeChar c) ++ rest)
      = stringOctets ((String.utf8EncodeChar c).reverse ++ done) rest := by
  have hshort : ∀ (e : Char) {d : Char} {octs : List UInt8}, c = d →
      String.utf8EncodeChar d = octs → escape (String.utf8EncodeChar e ++ rest) = .ok (octs, rest) →
      stringOctets done (octets ['\\', e] ++ rest)
        = stringOctets ((String.utf8EncodeChar c).reverse ++ done) rest := by
    rintro e d octs rfl hc he
    rw [octets_cons, octets_cons, List.append_assoc, List.append_assoc, hc]
    exact stringOctets_escape he done
  -- the escapes of one letter, the other control characters, and what stands for itself
  rw [escapeChar]
  split
  next hquote => exact hshort '"' hquote rfl rfl
  split
  next hslash => exact hshort '\\' hslash rfl rfl
  split
  next hback => exact hshort 'b' hback rfl rfl
  split
  next hfeed => exact hshort 'f' hfeed rfl rfl
  split
  next hline => exact hshort 'n' hline rfl rfl
  split
  next hreturn => exact hshort 'r' hreturn rfl rfl
  split
  next htab => exact hshort 't' htab rfl rfl
  split
  · rename_i hcontrol
    have hlt : c.toNat < 32 := hcontrol
    have hoctets := escape_control hlt rest
    rw [octetsOf, Char.ofNat_toNat] at hoctets
    rw [octets_cons, List.append_assoc]
    exact stringOctets_escape hoctets done
  · rename_i hquote hslash _ _ _ _ _ hcontrol
    rw [show octets [c] = String.utf8EncodeChar c from List.append_nil _]
    rcases Nat.lt_or_ge c.toNat 128 with hascii | hwide
    · have hne : ∀ d : Char, d.toNat < 128 → c ≠ d → UInt8.ofNat c.toNat ≠ UInt8.ofNat d.toNat := by
        intro d hd hcd heq
        have hnat := congrArg UInt8.toNat heq
        rw [toNat_octet hascii, toNat_octet hd] at hnat
        exact hcd (Char.toNat_inj.mp hnat)
      have hplain : ¬ UInt8.ofNat c.toNat < 32 := by
        rw [UInt8.lt_iff_toNat_lt, toNat_octet hascii]
        exact hcontrol
      rw [octets_ascii hascii]
      exact stringOctets_plain (hne '"' (by decide) hquote) (hne '\\' (by decide) hslash) hplain
        done rest
    · exact stringOctets_wide (octets_wide hwide) done rest

/-- **A STRING READS BACK**, whatever characters it is made of. -/
theorem stringBody_quoted (s : String) (rest : List UInt8) :
    stringBody (octets (s.toList.flatMap escapeChar ++ ['"']) ++ rest) = .ok (s, rest) := by
  have hread : ∀ (cs : List Char) (done : List UInt8),
      stringOctets done (octets (cs.flatMap escapeChar) ++ 34 :: rest)
        = .ok (done.reverse ++ octets cs, 34 :: rest) := by
    intro cs
    induction cs with
    | nil =>
        intro done
        show stringOctets done (34 :: rest) = _
        rw [stringOctets, if_pos rfl]
        exact congrArg (fun x => Except.ok (x, _)) (List.append_nil _).symm
    | cons c cs ih =>
        intro done
        rw [List.flatMap_cons, octets_append, List.append_assoc, stringOctets_escapeChar, ih,
          octets_cons, List.reverse_append, List.reverse_reverse, List.append_assoc]
  have htext : octets (s.toList.flatMap escapeChar ++ ['"']) ++ rest
      = octets (s.toList.flatMap escapeChar) ++ 34 :: rest := by
    rw [octets_append, List.append_assoc]
    rfl
  rw [stringBody, htext, hread]
  dsimp only
  rw [List.reverse_nil, List.nil_append, decode_octets]
  rfl

end Json

end Courier
