import Courier.Proofs.Json.Texts

/-!
# Spelling — what the readers of typed data make of JSON texts

A value is spelled by many texts: blanks may stand between the parts of an object.  `Spells` says
which texts spell a value that is made of natural numbers, truth values, strings and objects, and
`Takes` that a reader makes some datum of whatever text spells a value.  There is one lemma for each
reader; that of a record takes the members of an object one by one, whatever their order (`Fills`).
-/

namespace Courier.Json

open Text Text.Utf8

/-- Nothing but blanks. -/
def Blank (blanks : List UInt8) : Prop :=
  ∀ b ∈ blanks, isBlank b = true

mutual

/-- The texts that spell a value. -/
inductive Spells : Json → List UInt8 → Prop where
  | null : Spells .null (octets (chars .null))
  | bool (b : Bool) : Spells (.bool b) (octets (chars (.bool b)))
  | nat {i : Int} (n : Nat) (hi : i = n) : Spells (.int i) (octets (Numeral.digits n))
  | string (s : String) : Spells (.string s) (octets (quoted s))
  | object {members : List (String × Json)} {text : List UInt8}
      (h : SpellsMembers true members text) : Spells (.object members) (123 :: text)

/-- The texts that spell the members of an object up to its end, from the first on or from behind
    another. -/
inductive SpellsMembers : Bool → List (String × Json) → List UInt8 → Prop where
  | nil (first : Bool) {blanks : List UInt8} (hb : Blank blanks) :
      SpellsMembers first [] (blanks ++ [125])
  | first {members : List (String × Json)} {before text : List UInt8} (hb : Blank before)
      (h : SpellsMember members text) : SpellsMembers true members (before ++ text)
  | next {members : List (String × Json)} {before between text : List UInt8} (hb : Blank before)
      (hc : Blank between) (h : SpellsMember members text) :
      SpellsMembers false members (before ++ 44 :: (between ++ text))

/-- The texts that spell some members of an object, from the name of the first on. -/
inductive SpellsMember : List (String × Json) → List UInt8 → Prop where
  | mk (name : String) {v : Json} {members : List (String × Json)}
      {before between text more : List UInt8} (hb : Blank before) (hc : Blank between)
      (hv : Spells v text) (hm : SpellsMembers false members more) :
      SpellsMember ((name, v) :: members)
        (octets (quoted name) ++ (before ++ 58 :: (between ++ (text ++ more))))

end

/-! ## Blanks -/

section Blanks

variable {blanks text rest : List UInt8} {v : Json}

/-- A text that does not begin with a blank. -/
def Starts (text : List UInt8) : Prop :=
  ∃ b tail, text = b :: tail ∧ isBlank b = false

theorem skipBlanks_starts (h : Starts text) : skipBlanks text = text := by
  obtain ⟨b, tail, rfl, hb⟩ := h
  exact List.dropWhile_cons_of_neg (by simp [hb])

theorem Starts.append (h : Starts text) (rest : List UInt8) : Starts (text ++ rest) := by
  obtain ⟨b, tail, rfl, hb⟩ := h
  exact ⟨b, tail ++ rest, rfl, hb⟩

theorem skipBlanks_blanks (hb : Blank blanks) (h : Starts text) :
    skipBlanks (blanks ++ text) = text := by
  rw [skipBlanks, List.dropWhile_append_of_pos hb]
  exact skipBlanks_starts h

theorem starts_cons {b : UInt8} (hb : isBlank b = false) (tail : List UInt8) : Starts (b :: tail) :=
  ⟨b, tail, rfl, hb⟩

theorem ends_of_blank (hb : Blank blanks) {b : UInt8} (h : b = 44 ∨ b = 125) (tail : List UInt8) :
    Ends (blanks ++ b :: tail) := by
  intro x hx
  cases blanks with
  | nil =>
      cases hx
      exact Or.inr h
  | cons y blanks =>
      cases hx
      exact Or.inl (hb _ List.mem_cons_self)

/-- Whatever comes after a member ends it. -/
theorem SpellsMembers.ends {members : List (String × Json)}
    (h : SpellsMembers false members text) (rest : List UInt8) : Ends (text ++ rest) := by
  cases h with
  | nil _ hb =>
      rw [List.append_assoc]
      exact ends_of_blank hb (Or.inr rfl) _
  | next hb hc h =>
      rw [List.append_assoc]
      exact ends_of_blank hb (Or.inl rfl) _

/-- A number begins with a digit. -/
theorem digits_starts (n : Nat) : ∃ b tail, octets (Numeral.digits n) = b :: tail ∧
    48 ≤ b.toNat ∧ b.toNat ≤ 57 := by
  rw [Numeral.digits]
  cases hd : Nat.toDigits 10 n with
  | nil => exact absurd hd Nat.toDigits_ne_nil
  | cons c cs =>
      have hc : c.isDigit = true :=
        Nat.isDigit_of_mem_toDigits (by decide) (by decide) (hd ▸ List.mem_cons_self)
      have hrange := digit_range hc
      refine ⟨UInt8.ofNat c.toNat, octets cs, ?_, ?_⟩
      · rw [octets_cons, (digit_octet hc).1]
        rfl
      · rwa [toNat_octet (by omega)]

/-- What begins with a digit begins with nothing else. -/
theorem peek_ne_of_digit {b : UInt8} (hlow : 48 ≤ b.toNat) (hhigh : b.toNat ≤ 57) {c : Char}
    (hc : c.isDigit = false) (tail : List UInt8) : peek (b :: tail) ≠ some c := by
  have hall : ∀ n < 58, 48 ≤ n → (Char.ofNat n).isDigit = true := by decide
  intro heq
  have hdigit := hall b.toNat (by omega) hlow
  rw [Option.some.inj heq, hc] at hdigit
  cases hdigit

theorem not_blank_of_digit {b : UInt8} (h : 48 ≤ b.toNat) : isBlank b = false := by
  have hne : ∀ n : UInt8, n.toNat < 48 → b ≠ n := by
    rintro n hn rfl
    omega
  simp [isBlank, hne 32 (by decide), hne 10 (by decide), hne 9 (by decide), hne 13 (by decide)]

/-- No value begins with a blank. -/
theorem Spells.starts (h : Spells v text) : Starts text := by
  cases h with
  | null => exact starts_cons rfl _
  | bool b => cases b <;> exact starts_cons rfl _
  | nat n hi =>
      obtain ⟨b, tail, heq, hb, -⟩ := digits_starts n
      exact ⟨b, tail, heq, not_blank_of_digit hb⟩
  | string s => exact starts_cons rfl _
  | object h => exact starts_cons rfl _

end Blanks

/-! ## Readers of scalars -/

/-- A reader makes this of a text, whatever blanks come before it, where nothing goes on. -/
def Reads {α : Type} (read : Reader α) (text : List UInt8) (a : α) : Prop :=
  ∀ blanks rest, Blank blanks → Ends rest → read (blanks ++ (text ++ rest)) = .ok (a, rest)

/-- A reader makes this of a value, however it is spelled. -/
def Takes {α : Type} (read : Reader α) (v : Json) (a : α) : Prop :=
  ∀ text, Spells v text → Reads read text a

section Readers

variable {α σ : Type} {read : Reader α} {text : List UInt8} {v : Json} {a : α}

/-- The blanks before a value are passed over. -/
theorem reads_atValue (hs : Starts text)
    (h : ∀ rest, Ends rest → read (text ++ rest) = .ok (a, rest)) :
    Reads (atValue read) text a := by
  intro blanks rest hb hrest
  have hne : (text ++ rest).isEmpty = false := by
    obtain ⟨b, tail, rfl, -⟩ := hs
    rfl
  rw [atValue, skipBlanks_blanks hb (hs.append rest), hne]
  exact h rest hrest

/-- **A NATURAL NUMBER** that is within the bound. -/
theorem takes_natural {bound n : Nat} (expected : String) (hn : n ≤ bound)
    (hbound : bound ≤ maxInteger) : Takes (natural bound expected) (.int n) n := by
  intro text h
  have hs := h.starts
  cases h with
  | nat m hi =>
      obtain rfl : n = m := Int.ofNat_inj.mp hi
      refine reads_atValue hs fun rest hrest => ?_
      obtain ⟨b, tail, heq, hlow, hhigh⟩ := digits_starts n
      have hdigit : atDigit (octets (Numeral.digits n) ++ rest) = true := by
        rw [heq]
        show (digit? b).isSome = true
        rw [digit?, if_pos ⟨hlow, hhigh⟩]
        rfl
      have hminus : peek (octets (Numeral.digits n) ++ rest) ≠ some '-' := by
        rw [heq]
        exact peek_ne_of_digit hlow hhigh rfl _
      dsimp only
      rw [if_neg (by simpa using hminus), if_pos hdigit,
        number_digits (Nat.le_trans hn hbound) hrest]
      have hle : (0 : Int) ≤ n ∧ (n : Int) ≤ bound := ⟨Int.natCast_nonneg n, Int.ofNat_le.mpr hn⟩
      exact if_pos hle

theorem takes_flag (b : Bool) : Takes flag (.bool b) b := by
  intro text h
  have hs := h.starts
  cases h with
  | bool =>
      refine reads_atValue hs fun rest _ => ?_
      cases b <;> rfl

theorem takes_text (expected : String) (s : String) : Takes (Json.text expected) (.string s) s := by
  intro text h
  have hs := h.starts
  cases h with
  | string => exact reads_atValue hs fun rest _ => stringBody_quoted s rest

/-- `null` is a value of what is optional. -/
theorem takes_optional_null (read : Reader α) : Takes (optional read) .null none := by
  intro text h
  have hs := h.starts
  cases h with
  | null =>
      intro blanks rest hb _
      rw [optional, skipBlanks_blanks hb (hs.append rest)]
      rfl

/-- No other value begins like `null`. -/
theorem Spells.not_null (h : Spells v text) (hv : v ≠ .null) (rest : List UInt8) :
    peek (text ++ rest) ≠ some 'n' := by
  cases h with
  | null => exact absurd rfl hv
  | bool b => cases b <;> exact fun heq => by cases heq
  | nat n hi =>
      obtain ⟨b, tail, heq, hlow, hhigh⟩ := digits_starts n
      rw [heq]
      exact peek_ne_of_digit hlow hhigh rfl _
  | string s => exact fun heq => by cases heq
  | object h => exact fun heq => by cases heq

/-- What is optional may be there. -/
theorem takes_optional (h : Takes read v a) (hv : v ≠ .null) :
    Takes (optional read) v (some a) := by
  intro text ht blanks rest hb hrest
  have hread := h text ht [] rest (List.forall_mem_nil _) hrest
  rw [List.nil_append] at hread
  rw [optional, skipBlanks_blanks hb (ht.starts.append rest),
    if_neg (by simpa using ht.not_null hv rest), hread]
  rfl

/-- One of the known words. -/
theorem takes_choice {known : List (String × α)} {name : String} (hk : known.lookup name = some a) :
    Takes (choice known) (.string name) a := by
  intro text h
  have hs := h.starts
  cases h with
  | string =>
      intro blanks rest hb hrest
      have hread := takes_text "variant identifier" name _ (.string name) [] rest
        (List.forall_mem_nil _) hrest
      rw [List.nil_append] at hread
      have hopens : peek (octets (quoted name) ++ rest) = some '"' := rfl
      rw [choice, skipBlanks_blanks hb (hs.append rest)]
      simp only [hopens, hread, hk]

end Readers

/-! ## Records -/

section Records

variable {σ : Type} {l : Layout σ} {members : List (String × Json)} {text rest : List UInt8}
  {record record' : σ}

/-- What the members of an object make of a record, one after the other. -/
inductive Fills (l : Layout σ) : List (String × Json) → σ → σ → Prop where
  | nil (record : σ) : Fills l [] record record
  | cons {name : String} {v : Json} {members : List (String × Json)} {record record' record'' : σ}
      (hv : Takes (l.read name record) v record') (hm : Fills l members record' record'') :
      Fills l ((name, v) :: members) record record''

/-- A member begins with the quote of its name. -/
theorem SpellsMember.opens (h : SpellsMember members text) : ∃ tail, text = 34 :: tail := by
  cases h with
  | mk name => exact ⟨_, rfl⟩

/-- Where a further member is, its name comes next. -/
theorem SpellsMembers.nextName {first : Bool} {m : String × Json}
    (h : SpellsMembers first (m :: members) text) (rest : List UInt8) :
    ∃ member, SpellsMember (m :: members) member ∧
      Json.nextName first (text ++ rest) = .ok (true, member ++ rest) := by
  have hquote : ∀ tail, Starts (34 :: tail) := starts_cons rfl
  have hcomma : ∀ tail, Starts (44 :: tail) := starts_cons rfl
  cases h with
  | first hb hm =>
      obtain ⟨tail, rfl⟩ := hm.opens
      refine ⟨_, hm, ?_⟩
      rw [List.append_assoc, List.cons_append, Json.nextName, skipBlanks_blanks hb (hquote _)]
      rfl
  | @next _ before between _ hb hc hm =>
      obtain ⟨tail, rfl⟩ := hm.opens
      refine ⟨_, hm, ?_⟩
      rw [List.append_assoc, List.cons_append, List.append_assoc, List.cons_append, Json.nextName,
        skipBlanks_blanks hb (hcomma _)]
      have hpeek : peek (44 :: (between ++ 34 :: (tail ++ rest))) = some ',' := rfl
      have hskip : skipBlanks (List.drop 1 (44 :: (between ++ 34 :: (tail ++ rest))))
          = 34 :: (tail ++ rest) := skipBlanks_blanks hc (hquote _)
      simp only [hpeek, hskip]
      rfl

/-- Where the object ends, no name comes next. -/
theorem SpellsMembers.nextName_nil {first : Bool} (h : SpellsMembers first [] text)
    (rest : List UInt8) : Json.nextName first (text ++ rest) = .ok (false, 125 :: rest) := by
  cases h with
  | nil _ hb =>
      have hend : Starts (125 :: rest) := starts_cons rfl rest
      rw [List.append_assoc, List.singleton_append, Json.nextName, skipBlanks_blanks hb hend]
      rfl
  | first hb hm => cases hm
  | next hb hc hm => cases hm

theorem colon_blanks {blanks : List UInt8} (hb : Blank blanks) (rest : List UInt8) :
    colon (blanks ++ 58 :: rest) = .ok rest := by
  have hcolon : Starts (58 :: rest) := starts_cons rfl rest
  rw [colon, skipBlanks_blanks hb hcolon]
  rfl

/-- **THE MEMBERS OF AN OBJECT** fill a record one after the other, whatever their order. -/
theorem members_fills (hl : l.required = false) (hf : Fills l members record record')
    {first : Bool} (hs : SpellsMembers first members text) (seen : List String) (fuel : Nat)
    (hknown : ∀ m ∈ members, m.1 ∈ l.fields ∧ m.1 ∉ seen)
    (hn : (members.map Prod.fst).Nodup) (hfuel : members.length < fuel) (rest : List UInt8) :
    l.members fuel first seen record (text ++ rest) = .ok (record', 125 :: rest) := by
  obtain ⟨fuel, rfl⟩ : ∃ k, fuel = k + 1 := ⟨fuel - 1, by omega⟩
  -- along the record that is filled: with each member goes one name more that was seen
  induction hf generalizing first text seen fuel with
  | nil record =>
      rw [Layout.members, hs.nextName_nil rest, hl]
      rfl
  | @cons name v members record record' record'' hv hm ih =>
      obtain ⟨member, hmember, hnext⟩ := hs.nextName rest
      rw [Layout.members, hnext]
      cases hmember with
      | @mk _ _ _ before between text more hb hc hspells hmore =>
          obtain ⟨⟨hfield, hnew⟩, hrest⟩ := List.forall_mem_cons.mp hknown
          obtain ⟨hother, hn'⟩ := List.nodup_cons.mp hn
          have hname : stringBody ((octets (quoted name) ++
              (before ++ 58 :: (between ++ (text ++ more))) ++ rest).drop 1)
              = .ok (name, before ++ 58 :: (between ++ (text ++ (more ++ rest)))) := by
            rw [← stringBody_quoted name, quoted, octets_cons]
            simp only [List.append_assoc, List.cons_append]
            rfl
          have hread := hv text hspells between (more ++ rest) hc (hmore.ends rest)
          dsimp only
          rw [hname]
          dsimp only
          rw [if_pos (by simpa using hfield), if_neg (by simpa using hnew), colon_blanks hb]
          dsimp only
          rw [hread]
          dsimp only
          obtain ⟨fuel, rfl⟩ : ∃ k, fuel = k + 1 := ⟨fuel - 1, by simp at hfuel; omega⟩
          refine ih hmore (name :: seen) (fun m hmem => ?_) hn' fuel (by simp at hfuel; omega)
          refine ⟨(hrest m hmem).1, fun hseen => ?_⟩
          rcases List.mem_cons.mp hseen with heq | hold
          · exact hother (List.mem_map.mpr ⟨m, hmem, heq⟩)
          · exact (hrest m hmem).2 hold

/-- A text that spells members is longer than there are members. -/
theorem SpellsMembers.length_le {first : Bool} (h : SpellsMembers first members text) :
    members.length ≤ text.length := by
  induction members generalizing first text with
  | nil => exact Nat.zero_le _
  | cons m members ih =>
      have hmember : ∀ {member}, SpellsMember (m :: members) member →
          (m :: members).length ≤ member.length := by
        intro member hm
        cases hm with
        | mk name hb hc hv hmore =>
            have hle := ih hmore
            simp
            omega
      cases h with
      | first hb hm =>
          have hle := hmember hm
          rw [List.length_append]
          omega
      | next hb hc hm =>
          have hle := hmember hm
          simp only [List.length_append, List.length_cons] at hle ⊢
          omega

/-- **A RECORD** whose fields may be left out, from an object that names some of them. -/
theorem takes_record (hl : l.required = false) (hf : Fills l members record record')
    (hknown : ∀ m ∈ members, m.1 ∈ l.fields) (hn : (members.map Prod.fst).Nodup) :
    Takes (l.reader record) (.object members) record' := by
  intro text h
  have hs := h.starts
  cases h with
  | @object _ inner hmembers =>
      refine reads_atValue hs fun rest _ => ?_
      have hlen := hmembers.length_le
      have hread := members_fills hl hf hmembers [] (2 * (123 :: inner ++ rest).length + 2)
        (fun m hm => ⟨hknown m hm, nofun⟩) hn (by simp; omega) rest
      have hclose : closeObject (125 :: rest) = (.ok (), rest) := rfl
      show Layout.close closeObject (l.members (2 * (123 :: inner ++ rest).length + 2) true []
        record (inner ++ rest)) = _
      rw [hread, Layout.close, hclose]

end Records

/-! ## Whole texts -/

/-- A whole text may have blanks around its value. -/
theorem whole_reads {α : Type} {read : Reader α} {text : List UInt8} {a : α}
    (h : Reads read text a) {before after : List UInt8} (hb : Blank before) (ha : Blank after) :
    whole read (before ++ (text ++ after)) = .ok a := by
  have hends : Ends after := by
    intro b hb
    exact Or.inl (ha b (List.mem_of_mem_head? hb))
  have hskip : skipBlanks after = [] := by
    have hall : skipBlanks (after ++ []) = skipBlanks [] := List.dropWhile_append_of_pos ha
    rwa [List.append_nil] at hall
  rw [whole, h before after hb hends]
  dsimp only
  rw [hskip]
  rfl

section Printed

variable {members : List (String × Json)}

/-- A member that is printed spells itself, if its value and those after it do. -/
theorem spells_member (name : String) {v : Json} (hv : Spells v (octets (chars v)))
    (hm : SpellsMembers false members (octets (memberChars members))) :
    SpellsMember ((name, v) :: members)
      (octets (quoted name ++ ':' :: (chars v ++ memberChars members))) := by
  have hmember := SpellsMember.mk name (List.forall_mem_nil _) (List.forall_mem_nil _) hv hm
  rw [octets_append, octets_cons, octets_append]
  exact hmember

theorem spells_memberChars (h : ∀ m ∈ members, Spells m.2 (octets (chars m.2))) :
    SpellsMembers false members (octets (memberChars members)) := by
  induction members with
  | nil => exact .nil false (List.forall_mem_nil _)
  | cons m members ih =>
      obtain ⟨hv, hrest⟩ := List.forall_mem_cons.mp h
      rw [memberChars, octets_cons]
      exact .next (List.forall_mem_nil _) (List.forall_mem_nil _) (spells_member m.1 hv (ih hrest))

/-- **AN OBJECT THAT IS PRINTED SPELLS ITSELF**, if the values of its members do. -/
theorem spells_chars_object (h : ∀ m ∈ members, Spells m.2 (octets (chars m.2))) :
    Spells (.object members) (octets (chars (.object members))) := by
  cases members with
  | nil => exact .object (.nil true (List.forall_mem_nil _))
  | cons m members =>
      obtain ⟨hv, hrest⟩ := List.forall_mem_cons.mp h
      rw [chars, octets_cons]
      exact .object (.first (List.forall_mem_nil _)
        (spells_member m.1 hv (spells_memberChars hrest)))

end Printed

end Courier.Json
