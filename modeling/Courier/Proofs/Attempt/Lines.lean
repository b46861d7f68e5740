import Courier.Attempt.Record
import Courier.Proofs.Config.Documents
import Courier.Proofs.Time.Instants
import Mathlib.Data.List.Infix

/-!
# Lines — what a profiling line tells

The fields of a line are ended by a comma and a blank, and nothing is escaped.  A line is still told
apart into its fields as long as no text in it has a comma before a blank (`Line.Plain`): commas,
equality signs, quotes and braces alone do no harm, since a field is named by what comes before its
first equality sign and no name has a comma.  The fields read back then, and the instant reads back
twice: from the calendar date at the start of the line, and from the seconds of its first field
(`line_reads_back`).
-/

namespace Courier

open Json Numeral Text.Utf8

/-- What a line tells.  Its instant stands in it twice, once by its date and once by its seconds. -/
structure Line where
  /-- Milliseconds since 1970-01-01, by the date at the start of the line. -/
  instant : Nat
  /-- Milliseconds since 1970-01-01, by the first field. -/
  time : Nat
  url : String
  host : String
  method : String
  progress : Progress
  code : Int
  tag : String
  contentLength : String
  deriving DecidableEq

namespace Line

/-! ## Pieces -/

/-- The pieces of a text between commas that are followed by a blank. -/
def pieces : List Char → List (List Char)
  | [] => [[]]
  | ',' :: ' ' :: rest => [] :: pieces rest
  | c :: rest => (pieces rest).modifyHead (c :: ·)

/-- No comma in a text is followed by a blank. -/
def Plain (text : List Char) : Prop :=
  ¬ [',', ' '] <:+: text

instance (text : List Char) : Decidable (Plain text) :=
  inferInstanceAs (Decidable (¬ [',', ' '] <:+: text))

section Plain

variable {text before rest : List Char} {c : Char}

theorem Plain.tail (h : Plain (c :: text)) : Plain text :=
  fun hin => h (List.infix_cons hin)

/-- In front of what has no comma before a blank, nothing that is not a comma does harm. -/
theorem Plain.append (hbefore : ',' ∉ before) (h : Plain text) : Plain (before ++ text) := by
  induction before with
  | nil => exact h
  | cons c before ih =>
      obtain ⟨hc, hrest⟩ := not_or.mp (mt List.mem_cons.mpr hbefore)
      intro hin
      rcases List.infix_cons_iff.mp hin with hpre | hin
      · exact hc (List.cons_prefix_cons.mp hpre).1
      · exact ih hrest hin

theorem plain_of_no_blank (h : ' ' ∉ text) : Plain text :=
  fun hin => h (hin.subset (List.mem_cons_of_mem _ List.mem_cons_self))

/-- **A PIECE ENDS** at the first comma that is followed by a blank. -/
theorem pieces_append (h : Plain text) (rest : List Char) :
    pieces (text ++ ',' :: ' ' :: rest) = text :: pieces rest := by
  induction text with
  | nil => rw [List.nil_append, pieces]
  | cons c text ih =>
      rw [List.cons_append, pieces, ih h.tail]
      · rfl
      · -- a comma here would be followed by a blank only within the text
        rintro rest' rfl heq
        cases text with
        | nil => cases heq
        | cons d text =>
            obtain ⟨rfl, -⟩ := List.cons.inj heq
            exact h (List.prefix_append [',', ' '] text).isInfix

/-- Pieces that are each followed by a comma and a blank, and an empty rest. -/
theorem pieces_flatMap {texts : List (List Char)} (h : ∀ text ∈ texts, Plain text) :
    pieces (texts.flatMap (· ++ [',', ' '])) = texts ++ [[]] := by
  induction texts with
  | nil => rfl
  | cons text texts ih =>
      obtain ⟨htext, htexts⟩ := List.forall_mem_cons.mp h
      rw [List.flatMap_cons, List.append_assoc, List.cons_append, List.cons_append, List.nil_append,
        pieces_append htext, ih htexts, List.cons_append]

example : pieces "a,, b,c, ".toList = ["a,".toList, "b,c".toList, []] := by decide

end Plain

/-! ## Fields -/

/-- The value of a field, if it is the one of this name. -/
def value? (name : String) (piece : List Char) : Option (List Char) :=
  (name.toList ++ ['=']).isPrefixOf? piece

/-- The integer that a text writes. -/
def integer? : List Char → Option Int
  | '-' :: cs => (number? cs).map fun n : Nat => -(n : Int)
  | cs => (number? cs).map fun n : Nat => (n : Int)

/-- The milliseconds of a number of seconds that is written with three places. -/
def seconds? (cs : List Char) : Option Nat := do
  let (seconds, cs) ← openField? '.' cs
  let millis ← number? cs
  if cs.length = 3 then some (seconds * 1000 + millis) else none

/-- The timings as they are written in a line. -/
def timings : Layout Progress where
  expected := "timings"
  fields := ["namelookup_time", "connect_time", "pretransfer_time", "starttransfer_time",
    "total_time"]
  required := false
  read := fun name p =>
    match name with
    | "namelookup_time" => into long fun n => { p with nameLookup := n }
    | "connect_time" => into long fun n => { p with connect := n }
    | "pretransfer_time" => into long fun n => { p with preTransfer := n }
    | "starttransfer_time" => into long fun n => { p with startTransfer := n }
    | _ => into long fun n => { p with total := n }

/-- The timings that a text writes. -/
def progress? (cs : List Char) : Option Progress :=
  (whole (timings.reader .zero) (octets cs)).toOption

/-- The line that a text writes: the instant, a blank, and the ten fields, two of them empty. -/
def read? (text : String) : Option Line := do
  let (instant, fields) := text.toList.span (· ≠ ' ')
  match pieces (fields.drop 1) with
  | [time, url, host, method, progress, code, source, tag, length, origin, []] =>
    let instant ← Calendar.instant? instant
    let time ← value? "time" time
    let url ← value? "req_url" url
    let host ← value? "req_host_header" host
    let method ← value? "req_method" method
    let progress ← value? "exec_info" progress
    let code ← value? "resp_code" code
    let source ← value? "src_url" source
    let tag ← value? "req_status" tag
    let length ← value? "content_length" length
    let origin ← value? "origin" origin
    let time ← seconds? time
    let progress ← progress? progress
    let code ← integer? code
    if source = [] ∧ origin = [] then
      some ⟨instant, time, .ofList url, .ofList host, .ofList method, progress, code, .ofList tag,
        .ofList length⟩
    else none
  | _ => none

section Fields

theorem isPrefixOf?_append (cs rest : List Char) : cs.isPrefixOf? (cs ++ rest) = some rest := by
  induction cs with
  | nil => rfl
  | cons c cs ih => simp [List.isPrefixOf?, ih]

theorem value?_field (name : String) (value : List Char) :
    value? name (name.toList ++ '=' :: value) = some value := by
  have hrest := isPrefixOf?_append (name.toList ++ ['=']) value
  rwa [List.append_assoc] at hrest

theorem integer?_integer (i : Int) : integer? (integer i) = some i := by
  rw [integer]
  split
  · next hneg =>
      rw [integer?, number?_digits, Option.map_some, Int.ofNat_natAbs_of_nonpos (Int.le_of_lt hneg),
        Int.neg_neg]
  · next hpos =>
      have hsign : ∀ cs, digits i.natAbs ≠ '-' :: cs := fun cs heq =>
        absurd (isDigit_of_mem_digits (heq ▸ List.mem_cons_self)) (by decide)
      rw [integer?, number?_digits, Option.map_some, Int.natAbs_of_nonneg (Int.not_lt.mp hpos)]
      exact hsign

theorem blank_not_mem_integer (i : Int) : ' ' ∉ integer i := by
  rw [integer]
  split
  · simp [blank_not_mem_digits]
  · exact blank_not_mem_digits _

theorem seconds?_digits (millis : Nat) :
    seconds? (digits (millis / 1000) ++ '.' :: padded 3 (millis % 1000)) = some millis := by
  have hlength : (padded 3 (millis % 1000)).length = 3 := length_padded (by decide) (by omega)
  rw [seconds?, openField?_digits rfl]
  simp only [Option.bind_eq_bind, Option.bind_some, number?_padded, hlength, if_true]
  congr 1
  omega

/-- A name without a comma does no harm to its value. -/
theorem plain_field {name : String} (hname : ',' ∉ name.toList) {value : List Char}
    (h : Plain value) : Plain (name.toList ++ '=' :: value) := by
  have hbefore : ',' ∉ name.toList ++ ['='] := by simp [hname]
  have hfield := h.append hbefore
  rwa [List.append_assoc] at hfield

end Fields

end Line

/-! ## Timings -/

namespace Progress

/-- The timings fit sixty-four bits. -/
structure Fits (p : Progress) : Prop where
  nameLookup : p.nameLookup ≤ maxInteger
  connect : p.connect ≤ maxInteger
  preTransfer : p.preTransfer ≤ maxInteger
  startTransfer : p.startTransfer ≤ maxInteger
  total : p.total ≤ maxInteger

variable {p : Progress}

/-- The timings are read one after the other, each by its name. -/
theorem fills_timings (h : p.Fits) : Fills Line.timings
    [("namelookup_time", .int p.nameLookup), ("connect_time", .int p.connect),
      ("pretransfer_time", .int p.preTransfer), ("starttransfer_time", .int p.startTransfer),
      ("total_time", .int p.total)] .zero p := by
  have hset : ∀ set : Nat → Progress, ∀ {n : Nat}, n ≤ maxInteger →
      Takes (into long set) (.int n) (set n) := fun set _ hn => takes_into (takes_long hn) set
  refine .cons (hset (⟨·, 0, 0, 0, 0⟩) h.nameLookup) ?_
  refine .cons (hset (⟨p.nameLookup, ·, 0, 0, 0⟩) h.connect) ?_
  refine .cons (hset (⟨p.nameLookup, p.connect, ·, 0, 0⟩) h.preTransfer) ?_
  refine .cons (hset (⟨p.nameLookup, p.connect, p.preTransfer, ·, 0⟩) h.startTransfer) ?_
  exact .cons (hset (fun n => { p with total := n }) h.total) (.nil p)

/-- **THE TIMINGS READ BACK** from their text. -/
theorem progress?_print (h : p.Fits) : Line.progress? p.print.toList = some p := by
  have hread : Takes (Line.timings.reader .zero) p.toJson p :=
    takes_record rfl (fills_timings h) (fun m hm => List.mem_map_of_mem (f := Prod.fst) hm)
      (by simp)
  have hprinted : Printable p.toJson := by
    refine spells_chars_object fun m hm => ?_
    simp only [List.mem_cons, List.not_mem_nil, or_false] at hm
    rcases hm with rfl | rfl | rfl | rfl | rfl <;> exact printable_nat _
  have hwhole := whole_reads (hread _ hprinted) (List.forall_mem_nil _) (List.forall_mem_nil _)
  rw [List.nil_append, List.append_nil] at hwhole
  rw [Line.progress?, print, Json.print, String.toList_ofList, hwhole]
  rfl

/-- No blank is in the text of timings. -/
theorem blank_not_mem_print (p : Progress) : ' ' ∉ p.print.toList := by
  have hnames : ∀ name ∈ Line.timings.fields, ' ' ∉ quoted name := by decide
  simp only [Line.timings, List.forall_mem_cons] at hnames
  rw [print, Json.print, String.toList_ofList, toJson]
  simp [chars, memberChars, Line.blank_not_mem_integer, hnames]

end Progress

/-! ## Records -/

namespace Record

variable {r r' : Record}

/-- The line of a record can be read: its instant is not before 1970-01-01, its timings fit
    sixty-four bits, and no comma is followed by a blank in any of its texts. -/
structure Readable (r : Record) : Prop where
  since : 0 ≤ r.timestamp
  timings : r.progress.Fits
  url : Line.Plain r.url.toList
  host : Line.Plain (r.host.getD "").toList
  method : Line.Plain r.method.toList
  tag : Line.Plain r.tag.toList
  contentLength : Line.Plain (r.contentLength.getD "").toList

/-- What the line of a record is to tell. -/
def told (r : Record) : Line where
  instant := r.timestamp.toNat / 1000000
  time := r.timestamp.toNat / 1000000
  url := r.url
  host := r.host.getD ""
  method := r.method
  progress := r.progress
  code := r.code
  tag := r.tag
  contentLength := r.contentLength.getD ""

/-- The fields of a line, each with its name. -/
def fieldChars (r : Record) : List (List Char) :=
  r.fields.map fun (name, value) => name.toList ++ '=' :: value.toList

theorem line_eq (r : Record) : r.line.toList
    = Calendar.instantChars r.timestamp ++ ' ' :: r.fieldChars.flatMap (· ++ [',', ' ']) := by
  simp [line, fieldChars, String.toList_join, List.flatMap_map]

theorem plain_secondsText (r : Record) : Line.Plain r.secondsText.toList := by
  refine Line.plain_of_no_blank ?_
  rw [secondsText]
  simp [blank_not_mem_digits, blank_not_mem_padded]

/-- No comma is followed by a blank in any of the fields. -/
theorem Readable.plain_fields (h : r.Readable) : ∀ text ∈ r.fieldChars, Line.Plain text := by
  have hfields : ∀ field ∈ r.fields, ',' ∉ field.1.toList ∧ Line.Plain field.2.toList := by
    have hcode : Line.Plain (String.ofList (integer r.code)).toList := by
      rw [String.toList_ofList]
      exact Line.plain_of_no_blank (Line.blank_not_mem_integer r.code)
    have hempty : Line.Plain "".toList := by decide
    simp only [fields, List.forall_mem_cons]
    exact ⟨⟨by decide, r.plain_secondsText⟩, ⟨by decide, h.url⟩, ⟨by decide, h.host⟩,
      ⟨by decide, h.method⟩, ⟨by decide, Line.plain_of_no_blank r.progress.blank_not_mem_print⟩,
      ⟨by decide, hcode⟩, ⟨by decide, hempty⟩, ⟨by decide, h.tag⟩, ⟨by decide, h.contentLength⟩,
      ⟨by decide, hempty⟩, List.forall_mem_nil _⟩
  intro text htext
  obtain ⟨field, hmem, rfl⟩ := List.mem_map.mp htext
  obtain ⟨hname, hvalue⟩ := hfields field hmem
  exact Line.plain_field hname hvalue

/-- **THE FIELDS OF A LINE** are its pieces after the instant. -/
theorem Readable.pieces_line (h : r.Readable) :
    r.line.toList.span (· ≠ ' ')
      = (Calendar.instantChars r.timestamp, ' ' :: r.fieldChars.flatMap (· ++ [',', ' '])) ∧
    Line.pieces (r.fieldChars.flatMap (· ++ [',', ' '])) = r.fieldChars ++ [[]] := by
  refine ⟨?_, Line.pieces_flatMap h.plain_fields⟩
  have hinstant : ∀ c ∈ Calendar.instantChars r.timestamp, decide (c ≠ ' ') = true := by
    intro c hc
    refine decide_eq_true fun heq => ?_
    exact Calendar.blank_not_mem_instantChars h.since (heq ▸ hc)
  rw [List.span_eq_takeWhile_dropWhile, line_eq, List.takeWhile_append_of_pos hinstant,
    List.dropWhile_append_of_pos hinstant]
  simp

/-- The line of a record tells what it is to tell. -/
theorem Readable.read?_line (h : r.Readable) : Line.read? r.line = some r.told := by
  obtain ⟨hspan, hpieces⟩ := h.pieces_line
  rw [Line.read?, hspan]
  dsimp only
  rw [List.drop_one, List.tail_cons, hpieces]
  simp only [fieldChars, fields, List.map_cons, List.map_nil, List.cons_append, List.nil_append]
  simp only [Calendar.instant_reads_back h.since, Line.value?_field, Option.bind_eq_bind,
    Option.bind_some, String.toList_ofList, Line.integer?_integer, secondsText,
    Line.seconds?_digits, Progress.progress?_print h.timings]
  rw [if_pos ⟨by decide, by decide⟩]
  simp only [String.ofList_toList]
  rfl

/-- **A LINE READS BACK.**  After the instant at its start and a blank, its pieces are the ten
    fields in their order, each with its name, and an empty rest.  What they say is what the record
    says, and both instants are the one of the record, rounded down to the millisecond.  So records
    with the same line say the same. -/
theorem line_reads_back (r : Record) (h : r.Readable) :
    (∃ text, r.line.toList = Calendar.instantChars r.timestamp ++ ' ' :: text ∧
      ' ' ∉ Calendar.instantChars r.timestamp ∧
      Line.pieces text = ["time=" ++ r.secondsText, "req_url=" ++ r.url,
        "req_host_header=" ++ r.host.getD "", "req_method=" ++ r.method,
        "exec_info=" ++ r.progress.print,
        "resp_code=" ++ String.ofList (Numeral.integer r.code), "src_url=",
        "req_status=" ++ r.tag, "content_length=" ++ r.contentLength.getD "", "origin=",
        ""].map String.toList) ∧
    Line.read? r.line = some r.told ∧
    (r.told.instant = r.told.time ∧ r.told.time * Duration.perMilli ≤ r.timestamp ∧
      r.timestamp < (r.told.time + 1) * Duration.perMilli) ∧
    ∀ r' : Record, r'.Readable → r'.line = r.line → r'.told = r.told := by
  refine ⟨⟨_, r.line_eq, Calendar.blank_not_mem_instantChars h.since, ?_⟩, h.read?_line, ?_, ?_⟩
  · rw [h.pieces_line.2]
    simp [fieldChars, fields]
  · have hsince := h.since
    refine ⟨rfl, ?_, ?_⟩ <;> simp only [told, Duration.perMilli] <;> omega
  · intro r' h' hline
    have hread := h'.read?_line
    rw [hline, h.read?_line] at hread
    exact (Option.some.inj hread).symm

/-- A record of the year 10000, with the greatest timing and with commas, equality signs, quotes and
    braces in its texts. -/
def ornate : Record where
  timestamp := 253402300800123456789
  url := "http://a/?q=\x7b\"b\":1,c\x7d,"
  host := some "origin=,a"
  method := "GET"
  progress := ⟨0, 1, 2, 3, maxInteger⟩
  code := -1
  tag := "single|retry:-1"
  contentLength := none

theorem line_reads_back_of_ornate : ornate.Readable ∧
    Line.read? ornate.line = some ⟨253402300800123, 253402300800123,
      "http://a/?q=\x7b\"b\":1,c\x7d,", "origin=,a", "GET", ⟨0, 1, 2, 3, maxInteger⟩, -1,
      "single|retry:-1", ""⟩ := by
  have hreadable : ornate.Readable :=
    ⟨by decide, ⟨by decide, by decide, by decide, by decide, Nat.le_refl _⟩, by decide, by decide,
      by decide, by decide, by decide⟩
  exact ⟨hreadable, (line_reads_back ornate hreadable).2.1⟩

end Record

end Courier
