import PatchReview.Proofs.Json.Number

/-!
# Reading back what was written

A reader that comes upon the text of a value where one is due has that value behind it afterwards.
Strings come back as they are, with all their characters, and so do whole numbers, lists and
objects; a double comes back as the double that its text denotes.
-/

namespace PatchReview

/-! ## Hexadecimal digits -/

namespace Text

theorem hexDigits_one {n : Nat} (h : n < 16) : hexDigits 1 n = [n.digitChar] := by
  rw [hexDigits, Nat.toDigits_of_lt_base h]
  rfl

/-- The last digit is that of the remainder. -/
theorem hexDigits_succ {width : Nat} (hwidth : 0 < width) (n : Nat) :
    hexDigits (width + 1) n = hexDigits width (n / 16) ++ [(n % 16).digitChar] := by
  rw [hexDigits, hexDigits, Nat.toDigits_eq_if (by decide)]
  split
  · rename_i hless
    have hzero : n / 16 = 0 := Nat.div_eq_of_lt hless
    have hsplit : List.replicate width '0' = List.replicate (width - 1) '0' ++ ['0'] := by
      rw [← List.replicate_succ', Nat.sub_add_cancel hwidth]
    rw [hzero, Nat.toDigits_zero, Nat.mod_eq_of_lt hless]
    simp [hsplit]
  · simp

/-- A unit has four digits, one for each power of sixteen. -/
theorem hexDigits_four {n : Nat} (h : n < 0x10000) : hexDigits 4 n =
    [(n / 16 / 16 / 16).digitChar, (n / 16 / 16 % 16).digitChar, (n / 16 % 16).digitChar,
      (n % 16).digitChar] := by
  rw [hexDigits_succ (by decide), hexDigits_succ (by decide), hexDigits_succ (by decide),
    hexDigits_one (by omega)]
  rfl

end Text

namespace Json

/-- A digit is read as the number it was written for. -/
theorem hexDigit?_digitChar {d : Nat} (h : d < 16) : Toml.hexDigit? d.digitChar = some d := by
  have hall : ∀ d < 16, Toml.hexDigit? (Nat.digitChar d) = some d := by decide
  exact hall d h

/-! ## Strings -/

/-- A character is written as a letter behind a backslash, as itself, as a unit or as a pair of
units. -/
theorem writeChar_cases (c : Char) :
    c ∈ ['"', '\\', '\n', '\r', '\t', '\x0c', '\x08'] ∨
    ((0x20 ≤ c.toNat ∧ c.toNat < 0x7F) ∧ c ≠ '"' ∧ c ≠ '\\' ∧ writeChar c = [c]) ∨
    (c.toNat < 0x10000 ∧ writeChar c = unitEscape c.toNat) ∨
    (0x10000 ≤ c.toNat ∧ writeChar c = unitEscape (0xD800 + (c.toNat - 0x10000) / 0x400) ++
      unitEscape (0xDC00 + (c.toNat - 0x10000) % 0x400)) := by
  by_cases hletter : c ∈ ['"', '\\', '\n', '\r', '\t', '\x0c', '\x08']
  · exact .inl hletter
  · simp only [List.mem_cons, List.not_mem_nil, or_false, not_or] at hletter
    rcases hletter with ⟨hquote, hslash, hfeed, hreturn, htab, hform, hback⟩
    simp only [writeChar, beq_iff_eq, hquote, hslash, hfeed, hreturn, htab, hform, hback, if_false]
    split
    · rename_i hprintable
      simp only [Bool.and_eq_true, decide_eq_true_eq] at hprintable
      exact .inr (.inl ⟨hprintable, hquote, hslash, rfl⟩)
    · split
      · rename_i hunit
        exact .inr (.inr (.inl ⟨hunit, rfl⟩))
      · rename_i hpair
        exact .inr (.inr (.inr ⟨Nat.le_of_not_lt hpair, rfl⟩))

namespace Quote

/-- A digit of an escape is added to those before it. -/
theorem step?_digits {q : Quote} {count value d : Nat} (hq : q.escape = .digits count value)
    (hd : d < 16) :
    q.step? d.digitChar =
      if count < 3 then some { q with escape := .digits (count + 1) (16 * value + d) }
      else q.takeUnit? (16 * value + d) := by
  rw [step?, hq]
  dsimp only
  rw [hexDigit?_digitChar hd, Option.bind_some]

/-- A quote that may end a string is none of its characters. -/
theorem step?_of_isOpen {q : Quote} (h : q.isOpen = true) : q.step? '"' = none := by
  rcases q with ⟨chars, first?, escape⟩
  cases escape with
  | none =>
    cases first? with
    | none =>
      rfl
    | some n =>
      cases h
  | started =>
    cases h
  | digits count value =>
    cases h

/-- An escaped unit is taken. -/
theorem foldlM_unitEscape {q : Quote} (hq : q.escape = .none) {n : Nat} (h : n < 0x10000) :
    (unitEscape n).foldlM step? q = q.takeUnit? n := by
  have hstart : q.step? '\\' = some { q with escape := .started } := by
    rw [step?, hq]
    rfl
  have hvalue : 16 * (16 * (16 * (16 * 0 + n / 16 / 16 / 16) + n / 16 / 16 % 16) + n / 16 % 16) +
      n % 16 = n := by
    omega
  have hunit : ({ q with escape := .started } : Quote).step? 'u' =
      some { q with escape := .digits 0 0 } := rfl
  have hnext {count value d : Nat} (hcount : count < 3) (hd : d < 16) :
      ({ q with escape := .digits count value } : Quote).step? d.digitChar =
        some { q with escape := .digits (count + 1) (16 * value + d) } := by
    rw [step?_digits rfl hd, if_pos hcount]
  have hlast {value d : Nat} (hd : d < 16) :
      ({ q with escape := .digits 3 value } : Quote).step? d.digitChar =
        q.takeUnit? (16 * value + d) := by
    rw [step?_digits rfl hd]
    rfl
  -- Three digits are kept, and with the fourth the unit is taken.
  rw [unitEscape, Text.hexDigits_four h]
  simp only [List.foldlM_cons, List.foldlM_nil, hstart, hunit, Option.bind_eq_bind,
    Option.bind_some]
  rw [hnext (by decide) (by omega), Option.bind_some, hnext (by decide) (by omega),
    Option.bind_some, hnext (by decide) (by omega), Option.bind_some, hlast (by omega), hvalue]
  cases q.takeUnit? n <;> rfl

/-- A unit that is a character is taken as it is. -/
theorem takeUnit?_char (chars : List Char) {c : Char} (h : c.toNat < 0x10000) :
    ({ chars } : Quote).takeUnit? c.toNat = some { chars := chars ++ [c] } := by
  have hvalid : c.toNat < 0xD800 ∨ 0xE000 ≤ c.toNat := by
    have hscalar : c.toNat < 0xD800 ∨ 0xDFFF < c.toNat ∧ c.toNat < 0x110000 := c.valid
    omega
  rw [takeUnit?]
  dsimp only
  rw [if_pos (by simpa using hvalid), Char.ofNat_toNat]

/-- Two units that are a character together are taken as one. -/
theorem foldlM_unitEscape_pair (chars : List Char) {c : Char} (h : 0x10000 ≤ c.toNat) :
    (unitEscape (0xD800 + (c.toNat - 0x10000) / 0x400) ++
      unitEscape (0xDC00 + (c.toNat - 0x10000) % 0x400)).foldlM step? { chars } =
        some { chars := chars ++ [c] } := by
  have hvalid : c.toNat < 0xD800 ∨ 0xDFFF < c.toNat ∧ c.toNat < 0x110000 := c.valid
  generalize hn : c.toNat - 0x10000 = n
  -- The first unit waits, and the second makes up the character with it.
  have hfirst : ({ chars } : Quote).takeUnit? (0xD800 + n / 0x400) =
      some { chars, first? := some (0xD800 + n / 0x400) } := by
    rw [takeUnit?]
    dsimp only
    rw [if_neg (by simp; omega), if_pos (by omega)]
  have hsecond : ({ chars, first? := some (0xD800 + n / 0x400) } : Quote).takeUnit?
      (0xDC00 + n % 0x400) =
      some { chars := chars ++ [c] } := by
    have hvalue : 0x10000 + (0xD800 + n / 0x400 - 0xD800) * 0x400 + (0xDC00 + n % 0x400 - 0xDC00) =
        c.toNat := by
      omega
    rw [takeUnit?]
    dsimp only
    rw [if_pos (by simp; omega), hvalue, Char.ofNat_toNat]
  rw [List.foldlM_append, foldlM_unitEscape rfl (by omega), hfirst, Option.bind_eq_bind,
    Option.bind_some, foldlM_unitEscape rfl (by omega), hsecond]

/-- A character is read from what is written for it. -/
theorem foldlM_writeChar (chars : List Char) (c : Char) :
    (writeChar c).foldlM step? { chars } = some { chars := chars ++ [c] } := by
  rcases writeChar_cases c with
    hletter | ⟨hprintable, hquote, hslash, hwrite⟩ | ⟨hunit, hwrite⟩ | ⟨hpair, hwrite⟩
  · simp only [List.mem_cons, List.not_mem_nil, or_false] at hletter
    rcases hletter with rfl | rfl | rfl | rfl | rfl | rfl | rfl
    all_goals rfl
  · have hcontrol : ¬ c.toNat < 0x20 := by omega
    rw [hwrite]
    simp [step?, hquote, hslash, hcontrol]
  · rw [hwrite, foldlM_unitEscape rfl hunit, takeUnit?_char chars hunit]
  · rw [hwrite, foldlM_unitEscape_pair chars hpair]

/-- A text is read from what is written for it. -/
theorem foldlM_writeChars (s chars : List Char) :
    (s.flatMap writeChar).foldlM step? { chars } = some { chars := chars ++ s } := by
  induction s generalizing chars with
  | nil =>
    rw [List.flatMap_nil, List.append_nil]
    rfl
  | cons c s ih =>
    rw [List.flatMap_cons, List.foldlM_append, foldlM_writeChar, Option.bind_eq_bind,
      Option.bind_some, ih, List.append_assoc, List.singleton_append]

end Quote

/-! ## Steps of a reader -/

namespace Reader

variable {extended : Bool} {r : Reader} {frames : List Frame}

/-- Reading on is reading one part after the other. -/
theorem after?_append (r : Reader) (s t : List Char) :
    r.after? extended (s ++ t) = (s.foldlM (step? extended) r).bind (after? extended · t) := by
  rw [after?, List.foldlM_append, Option.bind_eq_bind, Option.bind_assoc]
  rfl

theorem after?_cons (r : Reader) (c : Char) (s : List Char) :
    r.after? extended (c :: s) = (r.step? extended c).bind (after? extended · s) := by
  rw [after?, List.foldlM_cons, Option.bind_eq_bind, Option.bind_assoc]
  rfl

/-- A character that is in no word ends the word in front of it. -/
theorem step?_of_not_bare (r : Reader) {c : Char} (hc : isBare c = false) :
    r.step? extended c = (r.settle? extended).bind (step? extended · c) := by
  cases hscan : r.scan with
  | between =>
    rw [settle?, hscan]
    rfl
  | quote q =>
    rw [settle?, hscan]
    rfl
  | bare word =>
    have hbetween (j : Json) :
        ({ due := .behind j, frames := r.frames } : Reader).step? extended c =
        between? { due := .behind j, frames := r.frames } c := rfl
    rw [step?, hscan]
    dsimp only
    rw [if_neg (by simp [hc]), settle?, hscan]
    dsimp only
    cases bare? extended word with
    | none =>
      rfl
    | some j =>
      exact (hbetween j).symm

/-- What is read up to a character that is in no word is complete. -/
theorem after?_append_cons (r : Reader) (s : List Char) {c : Char} (hc : isBare c = false)
    (t : List Char) :
    r.after? extended (s ++ c :: t) = (r.after? extended s).bind (after? extended · (c :: t)) := by
  rw [after?_append, after?, Option.bind_assoc]
  refine Option.bind_congr fun r' _ => ?_
  rw [after?_cons, step?_of_not_bare r' hc, Option.bind_assoc]
  refine Option.bind_congr fun r'' _ => ?_
  rw [after?_cons]

/-- Blanks between characters are passed over. -/
theorem after?_spaces (hr : r.scan = .between) {spaces : List Char}
    (h : ∀ c ∈ spaces, isSpace c = true) (t : List Char) :
    r.after? extended (spaces ++ t) = r.after? extended t := by
  induction spaces with
  | nil =>
    rfl
  | cons c spaces ih =>
    have hstep : r.step? extended c = some r := by
      rw [step?, hr]
      dsimp only
      rw [between?, if_pos (h c List.mem_cons_self)]
    rw [List.cons_append, after?_cons, hstep, Option.bind_some,
      ih fun d hd => h d (List.mem_cons_of_mem c hd)]

theorem isSpace_of_mem_lineBreak {depth : Nat} {c : Char} (h : c ∈ lineBreak depth) :
    isSpace c = true := by
  rcases List.mem_cons.1 h with rfl | hblank
  · rfl
  · rw [List.eq_of_mem_replicate hblank]
    rfl

/-! ## Words and strings -/

/-- Where a value is due, a character of a word without quotes starts such a word. -/
theorem step?_of_bare {c : Char} (h : isBare c = true) :
    ({ due := .value, frames } : Reader).step? extended c =
      some { scan := .bare [c], due := .value, frames } := by
  have hne {d : Char} (hd : isBare d = false) : (c == d) = false := by
    refine beq_false_of_ne ?_
    rintro rfl
    rw [h] at hd
    cases hd
  have hspace : isSpace c = false := by
    rw [isSpace, hne rfl, hne rfl, hne rfl, hne rfl]
    rfl
  show between? _ c = _
  rw [between?, hspace, if_neg Bool.false_ne_true]
  show openValue? c frames = _
  unfold openValue?
  rw [hne rfl, hne rfl, hne rfl, if_neg Bool.false_ne_true, if_neg Bool.false_ne_true,
    if_neg Bool.false_ne_true, if_pos h]

/-- The characters of a word without quotes are gathered until the word ends. -/
theorem foldlM_bare {s : List Char} (h : ∀ c ∈ s, isBare c = true) (word : List Char) (due : Due) :
    s.foldlM (step? extended) { scan := .bare word, due, frames } =
      some { scan := .bare (word ++ s), due, frames } := by
  induction s generalizing word with
  | nil =>
    rw [List.append_nil]
    rfl
  | cons c s ih =>
    have hstep : ({ scan := .bare word, due, frames } : Reader).step? extended c =
        some { scan := .bare (word ++ [c]), due, frames } := by
      rw [step?]
      exact if_pos (h c List.mem_cons_self)
    rw [List.foldlM_cons, hstep, Option.bind_eq_bind, Option.bind_some,
      ih fun d hd => h d (List.mem_cons_of_mem c hd), List.append_assoc, List.singleton_append]

/-- A word is read where a value is due. -/
theorem after?_bare {word : List Char} (hne : word ≠ []) (h : ∀ c ∈ word, isBare c = true) :
    ({ due := .value, frames } : Reader).after? extended word =
      (bare? extended word).map fun j => { due := .behind j, frames } := by
  cases word with
  | nil =>
    exact absurd rfl hne
  | cons c word =>
    rw [after?_cons, step?_of_bare (h c List.mem_cons_self), Option.bind_some, after?,
      foldlM_bare fun d hd => h d (List.mem_cons_of_mem c hd)]
    rfl

/-- Characters of a string are read inside it. -/
theorem foldlM_quote {s : List Char} {q q' : Quote} (h : s.foldlM Quote.step? q = some q')
    (due : Due) :
    s.foldlM (step? extended) { scan := .quote q, due, frames } =
      some { scan := .quote q', due, frames } := by
  induction s generalizing q with
  | nil =>
    cases h
    rfl
  | cons c s ih =>
    rw [List.foldlM_cons, Option.bind_eq_bind, Option.bind_eq_some_iff] at h
    rcases h with ⟨q₁, hchar, hrest⟩
    have hstep : ({ scan := .quote q, due, frames } : Reader).step? extended c =
        some { scan := .quote q₁, due, frames } := by
      have hquote : (c == '"' && q.isOpen) = false := by
        rw [Bool.eq_false_iff, ne_eq, Bool.and_eq_true, beq_iff_eq]
        rintro ⟨rfl, hopen⟩
        rw [Quote.step?_of_isOpen hopen] at hchar
        cases hchar
      rw [step?]
      dsimp only
      rw [hquote, if_neg Bool.false_ne_true, hchar]
      rfl
    rw [List.foldlM_cons, hstep, Option.bind_eq_bind, Option.bind_some, ih hrest]

/-- A string is the value or the name that is due. -/
theorem foldlM_writeText (s : String) {due : Due} (hdue : due = .value ∨ due = .name) :
    (writeText s).foldlM (step? extended) { due, frames } =
      ({ due, frames } : Reader).endQuote? s := by
  have hopen : ({ due, frames } : Reader).step? extended '"' =
      some { scan := .quote {}, due, frames } := by
    rcases hdue with rfl | rfl
    · rfl
    · rfl
  have hchars := Quote.foldlM_writeChars s.toList []
  rw [List.nil_append] at hchars
  have hclose : ({ scan := .quote { chars := s.toList }, due, frames } : Reader).step?
      extended '"' =
      ({ due, frames } : Reader).endQuote? s := by
    rw [step?]
    show endQuote? _ (String.ofList s.toList) = _
    rw [String.ofList_toList]
    rfl
  rw [writeText, List.cons_append, List.foldlM_cons, hopen, Option.bind_eq_bind, Option.bind_some,
    List.foldlM_append, foldlM_quote hchars, Option.bind_eq_bind, Option.bind_some,
    List.foldlM_cons, hclose]
  cases ({ due, frames } : Reader).endQuote? s <;> rfl

end Reader

/-! ## Values -/

mutual

/-- The value that the text of a value denotes: each double is the one that its text denotes, if
any. -/
def reread? (extended : Bool) : Json → Option Json
  | .null => some .null
  | .bool b => some (.bool b)
  | .int n => some (.int n)
  | .float x => bare? extended (floatFormat.write x).toList
  | .text s => some (.text s)
  | .list items => (rereadItems? extended items).map .list
  | .object members => (rereadMembers? extended members).map .object

def rereadItems? (extended : Bool) : List Json → Option (List Json)
  | [] => some []
  | item :: items => (reread? extended item).bind fun j =>
    (rereadItems? extended items).map (j :: ·)

def rereadMembers? (extended : Bool) : List (String × Json) → Option (List (String × Json))
  | [] => some []
  | (name, value) :: members =>
    (reread? extended value).bind fun j => (rereadMembers? extended members).map ((name, j) :: ·)

end

namespace Reader

variable {extended : Bool}

/-- Behind the last item of a list, its bracket closes the list. -/
theorem after?_closeList (j : Json) (items : List Json) (frames : List Frame) (depth : Nat) :
    ({ due := .behind j, frames := .list items :: frames } : Reader).after? extended
      (lineBreak depth ++ [']']) =
      some { due := .behind (.list (items ++ [j])), frames } := by
  rw [after?_spaces rfl fun c => isSpace_of_mem_lineBreak]
  rfl

/-- A closing brace ends the object with the member that was read last. -/
theorem after?_closeObject (j : Json) (members : List (String × Json)) (name : String)
    (frames : List Frame) (depth : Nat) :
    ({ due := .behind j, frames := .member members name :: frames } : Reader).after? extended
        (lineBreak depth ++ ['\x7d']) =
      some { due := .behind (.object (members ++ [(name, j)])), frames } := by
  rw [after?_spaces rfl fun c => isSpace_of_mem_lineBreak]
  rfl

/-- Behind a comma, the next item of a list is due. -/
theorem after?_nextItem (j : Json) (items : List Json) (frames : List Frame) (depth : Nat)
    (t : List Char) :
    ({ due := .behind j, frames := .list items :: frames } : Reader).after? extended
        (',' :: (lineBreak depth ++ t)) =
      ({ due := .value, frames := .list (items ++ [j]) :: frames } : Reader).after? extended t := by
  have hcomma : ({ due := .behind j, frames := .list items :: frames } : Reader).step?
      extended ',' =
      some { due := .value, frames := .list (items ++ [j]) :: frames } := rfl
  rw [after?_cons, hcomma, Option.bind_some, after?_spaces rfl fun c => isSpace_of_mem_lineBreak]

/-- Behind a comma, the next name of an object is due. -/
theorem after?_nextName (j : Json) (members : List (String × Json)) (name : String)
    (frames : List Frame) (depth : Nat) (t : List Char) :
    ({ due := .behind j, frames := .member members name :: frames } : Reader).after? extended
        (',' :: (lineBreak depth ++ t)) =
      ({ due := .name, frames := .object (members ++ [(name, j)]) :: frames } : Reader).after?
        extended t := by
  have hcomma : ({ due := .behind j, frames := .member members name :: frames } : Reader).step?
      extended ',' =
      some { due := .name, frames := .object (members ++ [(name, j)]) :: frames } := rfl
  rw [after?_cons, hcomma, Option.bind_some, after?_spaces rfl fun c => isSpace_of_mem_lineBreak]

/-- Behind a name and its colon, the value is due. -/
theorem after?_writeName (name : String) (members : List (String × Json)) (frames : List Frame)
    (t : List Char) :
    ({ due := .name, frames := .object members :: frames } : Reader).after? extended
        (writeText name ++ (':' :: ' ' :: t)) =
      ({ due := .value, frames := .member members name :: frames } : Reader).after? extended t := by
  rw [after?_append, foldlM_writeText name (.inr rfl)]
  rfl

/-- A value is read from its text if that is a word. -/
theorem after?_of_bare? {word : List Char} {j : Json} (hj : bare? extended word = some j)
    (hne : word ≠ []) (h : ∀ c ∈ word, isBare c = true) (frames : List Frame) :
    ({ due := .value, frames } : Reader).after? extended word =
      some { due := .behind j, frames } := by
  rw [after?_bare hne h, hj, Option.map_some]

/-- The text of a whole number is read as that number. -/
theorem after?_toString (n : Int) (frames : List Frame) :
    ({ due := .value, frames } : Reader).after? extended (toString n).toList =
      some { due := .behind (.int n), frames } := by
  have hnumber := number?_toString n
  refine after?_of_bare? (bare?_of_number? hnumber extended) ?_ (isBare_of_number? hnumber) frames
  intro hnil
  rw [hnil] at hnumber
  cases hnumber

-- The induction is on the value; what is open around it is for every value the same before and
-- behind.
mutual

/-- Behind the text of a value there is that value. -/
theorem after?_writeAt (depth : Nat) (j : Json) (frames : List Frame) :
    ({ due := .value, frames } : Reader).after? extended (writeAt depth j) =
      (reread? extended j).map fun j => { due := .behind j, frames } := by
  cases j with
  | null =>
    have hword : writeAt depth .null = ['n', 'u', 'l', 'l'] := String.toList_ofList
    rw [hword, after?_of_bare? rfl (by decide) (by simp [isBare, Char.isAlphanum]) frames]
    rfl
  | bool b =>
    cases b with
    | false =>
      have hword : writeAt depth (.bool false) = ['f', 'a', 'l', 's', 'e'] := String.toList_ofList
      rw [hword, after?_of_bare? rfl (by decide) (by simp [isBare, Char.isAlphanum]) frames]
      rfl
    | true =>
      have hword : writeAt depth (.bool true) = ['t', 'r', 'u', 'e'] := String.toList_ofList
      rw [hword, after?_of_bare? rfl (by decide) (by simp [isBare, Char.isAlphanum]) frames]
      rfl
  | int n =>
    rw [writeAt, after?_toString]
    rfl
  | float x =>
    rw [writeAt, after?_bare (write_ne_nil x) (isBare_write x)]
    rfl
  | text s =>
    rw [writeAt, after?, foldlM_writeText s (.inl rfl)]
    rfl
  | list items =>
    rw [writeAt, enclose, reread?]
    cases items with
    | nil =>
      rfl
    | cons item items =>
      -- the bracket opens a frame that gathers the items; the line breaks are skipped
      have hopen : ({ due := .value, frames } : Reader).step? extended '[' =
          some { due := .value, frames := .list [] :: frames } := rfl
      rw [if_neg (by simp [writeItems]), List.append_assoc, List.append_assoc, List.cons_append,
        after?_cons, hopen, Option.bind_some, after?_spaces rfl fun c => isSpace_of_mem_lineBreak,
        after?_writeItems depth (item :: items) (List.cons_ne_nil _ _) [] frames, Option.map_map]
      rfl
  | object members =>
    rw [writeAt, enclose, reread?]
    cases members with
    | nil =>
      rfl
    | cons member members =>
      have hopen : ({ due := .value, frames } : Reader).step? extended '\x7b' =
          some { due := .name, frames := .object [] :: frames } := rfl
      rw [if_neg (by simp [writeMembers]), List.append_assoc, List.append_assoc, List.cons_append,
        after?_cons, hopen, Option.bind_some, after?_spaces rfl fun c => isSpace_of_mem_lineBreak,
        after?_writeMembers depth (member :: members) (List.cons_ne_nil _ _) [] frames,
        Option.map_map]
      rfl

/-- The items of a list are read one after the other, behind those that are read already. -/
theorem after?_writeItems (depth : Nat) (items : List Json) (hitems : items ≠ []) (done : List Json)
    (frames : List Frame) :
    ({ due := .value, frames := .list done :: frames } : Reader).after? extended
        (Text.joinWith (',' :: lineBreak (depth + 1)) (writeItems (depth + 1) items) ++
          (lineBreak depth ++ [']'])) =
      (rereadItems? extended items).map fun js =>
        { due := .behind (.list (done ++ js)), frames } := by
  cases items with
  | nil =>
    exact absurd rfl hitems
  | cons item items =>
    -- A word is complete only at a character that is none of its own, so what is read of the item
    -- is said up to the comma or the line break behind it.
    have hitem := after?_writeAt (depth + 1) item (.list done :: frames)
    rw [rereadItems?]
    cases items with
    | nil =>
      have htext : Text.joinWith (',' :: lineBreak (depth + 1)) (writeItems (depth + 1) [item]) ++
          (lineBreak depth ++ [']']) =
            writeAt (depth + 1) item ++ '\n' :: (List.replicate (2 * depth) ' ' ++ [']']) := rfl
      rw [htext, after?_append_cons _ _ rfl, hitem]
      cases reread? extended item with
      | none =>
        rfl
      | some j =>
        exact after?_closeList j done frames depth
    | cons next items =>
      have htext : Text.joinWith (',' :: lineBreak (depth + 1))
          (writeItems (depth + 1) (item :: next :: items)) ++
          (lineBreak depth ++ [']']) =
            writeAt (depth + 1) item ++ ',' :: (lineBreak (depth + 1) ++
              (Text.joinWith (',' :: lineBreak (depth + 1))
                (writeItems (depth + 1) (next :: items)) ++
                (lineBreak depth ++ [']']))) := by
        simp [writeItems, Text.joinWith]
      rw [htext, after?_append_cons _ _ rfl, hitem]
      cases reread? extended item with
      | none =>
        rfl
      | some j =>
        have hrest := after?_writeItems depth (next :: items) (List.cons_ne_nil _ _)
          (done ++ [j]) frames
        rw [Option.map_some, Option.bind_some, after?_nextItem, hrest, Option.bind_some,
          Option.map_map]
        simp only [List.append_assoc, List.singleton_append]
        rfl

/-- The members of an object are read one after the other, behind those that are read already. -/
theorem after?_writeMembers (depth : Nat) (members : List (String × Json)) (hmembers : members ≠ [])
    (done : List (String × Json)) (frames : List Frame) :
    ({ due := .name, frames := .object done :: frames } : Reader).after? extended
        (Text.joinWith (',' :: lineBreak (depth + 1)) (writeMembers (depth + 1) members) ++
          (lineBreak depth ++ ['\x7d'])) =
      (rereadMembers? extended members).map fun js =>
        { due := .behind (.object (done ++ js)), frames } := by
  cases members with
  | nil =>
    exact absurd rfl hmembers
  | cons member members =>
    rcases member with ⟨name, value⟩
    -- the value is read on top of a frame with the members so far
    have hvalue := after?_writeAt (depth + 1) value (.member done name :: frames)
    have hcolon : ": ".toList = [':', ' '] := String.toList_ofList
    rw [rereadMembers?]
    cases members with
    | nil =>
      have htext : Text.joinWith (',' :: lineBreak (depth + 1))
          (writeMembers (depth + 1) [(name, value)]) ++
          (lineBreak depth ++ ['\x7d']) =
            writeText name ++ (':' :: ' ' ::
              (writeAt (depth + 1) value ++
                '\n' :: (List.replicate (2 * depth) ' ' ++ ['\x7d']))) := by
        simp [writeMembers, Text.joinWith, hcolon, lineBreak]
      rw [htext, after?_writeName, after?_append_cons _ _ rfl, hvalue]
      cases reread? extended value with
      | none =>
        rfl
      | some j =>
        exact after?_closeObject j done name frames depth
    | cons next members =>
      have htext : Text.joinWith (',' :: lineBreak (depth + 1))
          (writeMembers (depth + 1) ((name, value) :: next :: members)) ++
            (lineBreak depth ++ ['\x7d']) =
            writeText name ++
              (':' :: ' ' :: (writeAt (depth + 1) value ++ ',' :: (lineBreak (depth + 1) ++
              (Text.joinWith (',' :: lineBreak (depth + 1))
                (writeMembers (depth + 1) (next :: members)) ++
                (lineBreak depth ++ ['\x7d']))))) := by
        simp [writeMembers, Text.joinWith, hcolon]
      rw [htext, after?_writeName, after?_append_cons _ _ rfl, hvalue]
      cases reread? extended value with
      | none =>
        rfl
      | some j =>
        -- the member is one of those that are done when the next one is read
        have hrest := after?_writeMembers depth (next :: members) (List.cons_ne_nil _ _)
          (done ++ [(name, j)]) frames
        rw [Option.map_some, Option.bind_some, after?_nextName, hrest, Option.bind_some,
          Option.map_map]
        simp only [List.append_assoc, List.singleton_append]
        rfl

end

end Reader

/-- What is read of the text of a value is what its parts denote. -/
theorem read?_write (extended : Bool) (j : Json) : read? extended j.write = reread? extended j := by
  rw [read?, write, String.toList_ofList, Reader.after?_writeAt]
  cases reread? extended j <;> rfl

end Json
end PatchReview
