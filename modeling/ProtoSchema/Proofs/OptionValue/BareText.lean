/-
The bare text of an option value, and how it is read.

Without the blanks and line breaks between its tokens, the text of a value is a sequence of
words, literals and marks (`bare`). Its first character tells what is to be read: a quote starts
a literal, a brace or a bracket a list of elements, and everything else a word. Behind an
element stands a comma if another one follows, and otherwise the mark that closes the list.

So a value can be read off the front of a text in one way (`bare_append_inj`), provided that its
names are identifiers and numbers are told apart by their texts. What cannot be seen is whether a
literal was a string or the byte string of its UTF-8 bytes.
-/
import ProtoSchema.OptionValue
import ProtoSchema.Proofs.Literal
import ProtoSchema.Proofs.Text.Words

set_option autoImplicit false

namespace ProtoSchema

namespace OptionValue

/-! ## Values that can be told apart -/

mutual

/-- **The value with every string as the byte string of its UTF-8 bytes**, at any depth. -/
def stringsAsBytes : OptionValue → OptionValue
  | .string s => .bytes (Utf8.bytes s)
  | .mapping entries => .mapping (entriesAsBytes entries)
  | .sequence items => .sequence (itemsAsBytes items)
  | v => v

/-- The entries with every string in their values as a byte string. -/
def entriesAsBytes : List (String × OptionValue) → List (String × OptionValue)
  | [] => []
  | (key, v) :: rest => (key, v.stringsAsBytes) :: entriesAsBytes rest

/-- The items with every string in them as a byte string. -/
def itemsAsBytes : List OptionValue → List OptionValue
  | [] => []
  | v :: rest => v.stringsAsBytes :: itemsAsBytes rest

end

mutual

/-- **Legible values**: there is no null, every key and every enum constant is an identifier, and
no constant is named like a truth value, at any depth. -/
def Legible : OptionValue → Prop
  | .null => False
  | .enumLiteral name => isIdentifier name = true ∧ name ≠ "true" ∧ name ≠ "false"
  | .mapping entries => LegibleEntries entries
  | .sequence items => LegibleItems items
  | _ => True

/-- Every key is an identifier and every value is legible. -/
def LegibleEntries : List (String × OptionValue) → Prop
  | [] => True
  | (key, v) :: rest => isIdentifier key = true ∧ v.Legible ∧ LegibleEntries rest

/-- Every item is legible. -/
def LegibleItems : List OptionValue → Prop
  | [] => True
  | v :: rest => v.Legible ∧ LegibleItems rest

end

mutual

/-- The numbers in a value, at any depth. -/
def numbers : OptionValue → List Json.Number
  | .number n => [n]
  | .mapping entries => entriesNumbers entries
  | .sequence items => itemsNumbers items
  | _ => []

/-- The numbers in the values of entries. -/
def entriesNumbers : List (String × OptionValue) → List Json.Number
  | [] => []
  | (_, v) :: rest => v.numbers ++ entriesNumbers rest

/-- The numbers in items. -/
def itemsNumbers : List OptionValue → List Json.Number
  | [] => []
  | v :: rest => v.numbers ++ itemsNumbers rest

end

/-! ## The bare text of a value -/

/-- A comma, if more follows. -/
def comma {α : Type} (rest : List α) : List Char := if rest.isEmpty then [] else [',']

mutual

/-- **The text of a value without blanks and line breaks** outside literals. -/
def bare : OptionValue → List Char
  | .null => []
  | .bool b => if b then "true".toList else "false".toList
  | .number n => n.text.toList
  | .string s => (Literal.ofString s).toList
  | .bytes bs => (Literal.ofBytes bs).toList
  | .enumLiteral name => name.toList
  | .mapping entries => '\x7b' :: (bareEntries entries ++ ['\x7d'])
  | .sequence items => '[' :: (bareItems items ++ [']'])

/-- The bare texts of entries, separated by commas. -/
def bareEntries : List (String × OptionValue) → List Char
  | [] => []
  | (key, v) :: rest => key.toList ++ ':' :: (v.bare ++ (comma rest ++ bareEntries rest))

/-- The bare texts of items, separated by commas. -/
def bareItems : List OptionValue → List Char
  | [] => []
  | v :: rest => v.bare ++ (comma rest ++ bareItems rest)

end

theorem bareEntries_nil : bareEntries [] = [] := rfl

theorem bareItems_nil : bareItems [] = [] := rfl

/-- How the bare text of a value is to be read. -/
inductive Reading where
  | word
  | literal
  | mapping
  | sequence
deriving DecidableEq

/-- How the text of a value is to be read. -/
def reading : OptionValue → Reading
  | .null | .bool _ | .number _ | .enumLiteral _ => .word
  | .string _ | .bytes _ => .literal
  | .mapping _ => .mapping
  | .sequence _ => .sequence

/-- How a text is to be read, by its first character. -/
def readingOfHead (c : Char) : Reading :=
  if c = '"' then .literal
  else if c = '\x7b' then .mapping
  else if c = '[' then .sequence
  else .word

theorem readingOfHead_of_isWordChar {c : Char} (h : isWordChar c = true) :
    readingOfHead c = .word := by
  unfold readingOfHead
  split_ifs <;> simp_all [isWordChar, Char.isAlphanum]

/-- The text of a word is one: no other token can begin inside it. -/
theorem isWord_bare {v : OptionValue} (h : v.Legible) (hword : v.reading = .word) :
    IsWord v.bare := by
  cases v with
  | null => exact h.elim
  | bool b => cases b <;> exact ⟨by decide, List.all_eq_true.mp rfl⟩
  | number n => exact n.isWord_text
  | enumLiteral name => exact isWord_of_isIdentifier h.1
  | _ => cases hword

/-- What is read as a literal is quoted bytes, whether it was a string or bytes. -/
theorem bare_of_literal {v : OptionValue} (hliteral : v.reading = .literal) :
    ∃ bs, v.stringsAsBytes = .bytes bs ∧ v.bare = '"' :: (Literal.body bs ++ ['"']) := by
  cases v with
  | string s =>
    refine ⟨Utf8.bytes s, rfl, ?_⟩
    rw [bare, ← Literal.ofBytes_bytes, Literal.toList_ofBytes]
    rfl
  | bytes bs => exact ⟨bs, rfl, Literal.toList_ofBytes bs⟩
  | _ => cases hliteral

/-- **The first character of a text says how it is read.** -/
theorem head_bare {v : OptionValue} (h : v.Legible) :
    ∃ c cs, v.bare = c :: cs ∧ readingOfHead c = v.reading := by
  cases hreading : v.reading with
  | word =>
    have hword := isWord_bare h hreading
    obtain ⟨c, cs, hbare⟩ := List.exists_cons_of_ne_nil hword.ne_nil
    refine ⟨c, cs, hbare, readingOfHead_of_isWordChar (hword.forall_mem c ?_)⟩
    rw [hbare]
    exact List.mem_cons_self
  | literal =>
    obtain ⟨bs, -, hbare⟩ := bare_of_literal hreading
    exact ⟨_, _, hbare, rfl⟩
  | mapping =>
    cases v with
    | mapping entries => exact ⟨_, _, rfl, rfl⟩
    | _ => cases hreading
  | sequence =>
    cases v with
    | sequence entries => exact ⟨_, _, rfl, rfl⟩
    | _ => cases hreading

/-- Texts that begin alike are read alike. -/
theorem reading_eq {v w : OptionValue} {r s : List Char} (hv : v.Legible) (hw : w.Legible)
    (h : v.bare ++ r = w.bare ++ s) : v.reading = w.reading := by
  obtain ⟨c, cs, hc, hcv⟩ := head_bare hv
  obtain ⟨d, ds, hd, hdw⟩ := head_bare hw
  rw [hc, hd] at h
  rw [← hcv, ← hdw, (List.cons.inj h).1]

/-- Two lists of numbers whose texts tell their numbers apart. -/
def ToldApart (ms ns : List Json.Number) : Prop :=
  ∀ m ∈ ms, ∀ n ∈ ns, m.text = n.text → m = n

theorem ToldApart.append_left {ms ms' ns ns' : List Json.Number}
    (h : ToldApart (ms ++ ms') (ns ++ ns')) : ToldApart ms ns :=
  fun m hm n hn => h m (List.mem_append_left _ hm) n (List.mem_append_left _ hn)

theorem ToldApart.append_right {ms ms' ns ns' : List Json.Number}
    (h : ToldApart (ms ++ ms') (ns ++ ns')) : ToldApart ms' ns' :=
  fun m hm n hn => h m (List.mem_append_right _ hm) n (List.mem_append_right _ hn)

/-- A number is written with a digit or a sign in front, a truth value is not. -/
theorem text_ne_bool (n : Json.Number) (b : Bool) : n.text.toList ≠ bare (.bool b) := by
  intro h
  obtain ⟨c, hc, hstart⟩ := n.head_text
  rw [h] at hc
  cases b <;> cases hc <;> exact absurd hstart (by decide)

/-- Nor is a name. -/
theorem text_ne_name (n : Json.Number) {name : String} (hname : isIdentifier name = true) :
    n.text.toList ≠ name.toList := by
  intro h
  obtain ⟨c, hc, hstart⟩ := n.head_text
  obtain ⟨d, hd, hname⟩ := head_of_isIdentifier hname
  rw [h] at hc
  obtain rfl := Option.mem_unique hc hd
  rcases hstart with hdigit | rfl
  · exact not_isDigit_of_isNameStart hname hdigit
  · exact absurd hname (by decide)

theorem bare_bool_injective {b c : Bool} (h : bare (.bool b) = bare (.bool c)) : b = c := by
  revert b c
  decide

/-- A constant with the name of a truth value is not legible, since it would be read as one. -/
theorem name_ne_bool {name : String} (h : Legible (.enumLiteral name)) (b : Bool) :
    name.toList ≠ bare (.bool b) := by
  intro heq
  cases b with
  | true => exact h.2.1 (String.toList_inj.mp heq)
  | false => exact h.2.2 (String.toList_inj.mp heq)

/-- **Words with the same text are the same**, if numbers are told apart by their texts. -/
theorem eq_of_bare_eq {v w : OptionValue} (hv : v.Legible) (hw : w.Legible)
    (hvword : v.reading = .word) (hwword : w.reading = .word)
    (hnumbers : ToldApart v.numbers w.numbers)
    (h : v.bare = w.bare) : v = w := by
  -- of the three kinds of words only equal ones can have the same text
  cases v with
  | null => exact hv.elim
  | bool b =>
    cases w with
    | null => exact hw.elim
    | bool c => rw [bare_bool_injective h]
    | number n => exact absurd h.symm (text_ne_bool n b)
    | enumLiteral name => exact absurd h.symm (name_ne_bool hw b)
    | _ => cases hwword
  | number m =>
    cases w with
    | null => exact hw.elim
    | bool c => exact absurd h (text_ne_bool m c)
    | number n =>
      rw [hnumbers m List.mem_cons_self n List.mem_cons_self (String.toList_inj.mp h)]
    | enumLiteral name => exact absurd h (text_ne_name m hw.1)
    | _ => cases hwword
  | enumLiteral name =>
    cases w with
    | null => exact hw.elim
    | bool c => exact absurd h (name_ne_bool hv c)
    | number n => exact absurd h.symm (text_ne_name n hv.1)
    | enumLiteral other => rw [String.toList_inj.mp h]
    | _ => cases hwword
  | _ => cases hvword

/-! ## Reading a bare text -/

section Closing

variable {α : Type} {text : List α → List Char} {closing : Char}

/-- Behind an element stands a comma or what closes the list. -/
theorem endsWord_comma_append (hnil : text [] = []) (hclosing : isWordChar closing = false)
    (rest : List α) (cs : List Char) : EndsWord (comma rest ++ (text rest ++ closing :: cs)) := by
  cases rest with
  | nil =>
    rw [hnil]
    exact endsWord_cons hclosing
  | cons a rest => exact endsWord_cons rfl

/-- Whether an element is followed by another one can be seen behind it. -/
theorem comma_append_inj (hnil : text [] = []) (hclosing : closing ≠ ',') {as bs : List α}
    {x y : List Char}
    (h : comma as ++ (text as ++ closing :: x) = comma bs ++ (text bs ++ closing :: y)) :
    text as ++ closing :: x = text bs ++ closing :: y := by
  cases as with
  | nil =>
    cases bs with
    | nil => exact h
    | cons b bs =>
      -- a comma on one side only would stand where the other side closes
      rw [hnil] at h
      exact absurd (List.cons.inj h).1 hclosing
  | cons a as =>
    cases bs with
    | nil =>
      rw [hnil] at h
      exact absurd (List.cons.inj h).1.symm hclosing
    | cons b bs => exact (List.cons.inj h).2

end Closing

/-- A value never begins with the bracket that ends a list, so that it is clear where a list ends.
-/
theorem bare_append_ne_bracket {v : OptionValue} (h : v.Legible) (r s : List Char) :
    v.bare ++ r ≠ ']' :: s := by
  intro heq
  cases hreading : v.reading with
  | word => exact word_append_ne_cons (isWord_bare h hreading) (by decide) _ _ heq
  | literal =>
    obtain ⟨bs, -, hbare⟩ := bare_of_literal hreading
    rw [hbare] at heq
    exact absurd (List.cons.inj heq).1 (by decide)
  | mapping =>
    cases v with
    | mapping es => exact absurd (List.cons.inj heq).1 (by decide)
    | _ => cases hreading
  | sequence =>
    cases v with
    | sequence es => exact absurd (List.cons.inj heq).1 (by decide)
    | _ => cases hreading

/-- A word ends where its characters do, so that its text and what follows are told apart. -/
theorem word_bare_append_inj {v w : OptionValue} {r s : List Char} (hv : v.Legible)
    (hw : w.Legible) (hnumbers : ToldApart v.numbers w.numbers) (hr : EndsWord r)
    (hs : EndsWord s) (hword : v.reading = .word) (h : v.bare ++ r = w.bare ++ s) :
    v.stringsAsBytes = w.stringsAsBytes ∧ r = s := by
  have hword' : w.reading = .word := by rw [← reading_eq hv hw h, hword]
  obtain ⟨hbare, hrs⟩ := word_append_inj (isWord_bare hv hword) (isWord_bare hw hword') hr hs h
  exact ⟨congrArg _ (eq_of_bare_eq hv hw hword hword' hnumbers hbare), hrs⟩

/-- A literal ends at its first bare quote. -/
theorem literal_bare_append_inj {v w : OptionValue} {r s : List Char} (hv : v.Legible)
    (hw : w.Legible) (hliteral : v.reading = .literal) (h : v.bare ++ r = w.bare ++ s) :
    v.stringsAsBytes = w.stringsAsBytes ∧ r = s := by
  have hliteral' : w.reading = .literal := by rw [← reading_eq hv hw h, hliteral]
  obtain ⟨bs, hbs, hvbare⟩ := bare_of_literal hliteral
  obtain ⟨cs, hcs, hwbare⟩ := bare_of_literal hliteral'
  rw [hvbare, hwbare] at h
  have hbody : Literal.body bs ++ '"' :: r = Literal.body cs ++ '"' :: s := by simpa using h
  obtain ⟨hbody, hrs⟩ :=
    (Literal.escaped_body bs).append_quote_inj (Literal.escaped_body cs) hbody
  rw [hbs, hcs, Literal.body_injective hbody]
  exact ⟨rfl, hrs⟩

mutual

/-- **A bare text is read in one way.** -/
theorem bare_append_inj (v : OptionValue) {w : OptionValue} {r s : List Char} (hv : v.Legible)
    (hw : w.Legible) (hnumbers : ToldApart v.numbers w.numbers) (hr : EndsWord r)
    (hs : EndsWord s) (h : v.bare ++ r = w.bare ++ s) :
    v.stringsAsBytes = w.stringsAsBytes ∧ r = s := by
  -- values that begin alike are of one kind, which leaves one case of `w` for each of `v`
  have hreading := reading_eq hv hw h
  cases v with
  | null => exact hv.elim
  | bool b => exact word_bare_append_inj hv hw hnumbers hr hs rfl h
  | number n => exact word_bare_append_inj hv hw hnumbers hr hs rfl h
  | enumLiteral name => exact word_bare_append_inj hv hw hnumbers hr hs rfl h
  | string t => exact literal_bare_append_inj hv hw rfl h
  | bytes bs => exact literal_bare_append_inj hv hw rfl h
  | mapping es =>
    cases w with
    | mapping fs =>
      simp only [bare, List.cons_append, List.append_assoc, List.nil_append, List.cons.injEq,
        true_and] at h
      obtain ⟨hes, hrs⟩ := bareEntries_append_inj es hv hw hnumbers h
      exact ⟨congrArg OptionValue.mapping hes, hrs⟩
    | _ => cases hreading
  | sequence is =>
    cases w with
    | sequence js =>
      simp only [bare, List.cons_append, List.append_assoc, List.nil_append, List.cons.injEq,
        true_and] at h
      obtain ⟨his, hrs⟩ := bareItems_append_inj is hv hw hnumbers h
      exact ⟨congrArg OptionValue.sequence his, hrs⟩
    | _ => cases hreading

/-- **The text of entries up to the closing brace determines them**, strings read as bytes. Keys are
words, and each is followed by its value. -/
theorem bareEntries_append_inj : ∀ (es : List (String × OptionValue))
    {fs : List (String × OptionValue)} {r s : List Char},
    LegibleEntries es → LegibleEntries fs → ToldApart (entriesNumbers es) (entriesNumbers fs) →
    bareEntries es ++ '\x7d' :: r = bareEntries fs ++ '\x7d' :: s →
    entriesAsBytes es = entriesAsBytes fs ∧ r = s
  | [], [], _, _, _, _, _, h => ⟨rfl, (List.cons.inj h).2⟩
  | [], (l, w) :: fs, r, s, _, ⟨hl, _, _⟩, _, h => by
    rw [bareEntries, bareEntries, List.append_assoc] at h
    exact absurd h.symm (word_append_ne_cons (isWord_of_isIdentifier hl) (by decide) _ _)
  | (k, v) :: es, [], r, s, ⟨hk, _, _⟩, _, _, h => by
    rw [bareEntries, bareEntries, List.append_assoc] at h
    exact absurd h (word_append_ne_cons (isWord_of_isIdentifier hk) (by decide) _ _)
  | (k, v) :: es, (l, w) :: fs, r, s, ⟨hk, hv, hes⟩, ⟨hl, hw, hfs⟩, hnumbers, h => by
    simp only [bareEntries, List.append_assoc, List.cons_append] at h
    obtain ⟨hkey, h⟩ := word_append_inj (isWord_of_isIdentifier hk) (isWord_of_isIdentifier hl)
      (endsWord_cons (by decide)) (endsWord_cons (by decide)) h
    -- the value ends where a comma or the closing brace stands, so the induction applies to it
    obtain ⟨hvalue, h⟩ := bare_append_inj v hv hw hnumbers.append_left
      (endsWord_comma_append bareEntries_nil (by decide) es r)
      (endsWord_comma_append bareEntries_nil (by decide) fs s) (List.cons.inj h).2
    obtain ⟨hrest, hrs⟩ := bareEntries_append_inj es hes hfs hnumbers.append_right
      (comma_append_inj bareEntries_nil (by decide) h)
    refine ⟨?_, hrs⟩
    rw [entriesAsBytes, entriesAsBytes, String.toList_inj.mp hkey, hvalue, hrest]

/-- The text of items up to the closing bracket determines them. -/
theorem bareItems_append_inj : ∀ (is : List OptionValue) {js : List OptionValue}
    {r s : List Char},
    LegibleItems is → LegibleItems js → ToldApart (itemsNumbers is) (itemsNumbers js) →
    bareItems is ++ ']' :: r = bareItems js ++ ']' :: s →
    itemsAsBytes is = itemsAsBytes js ∧ r = s
  | [], [], _, _, _, _, _, h => ⟨rfl, (List.cons.inj h).2⟩
  | [], w :: js, r, s, _, ⟨hw, _⟩, _, h => by
    rw [bareItems, bareItems, List.append_assoc] at h
    exact absurd h.symm (bare_append_ne_bracket hw _ _)
  | v :: is, [], r, s, ⟨hv, _⟩, _, _, h => by
    rw [bareItems, bareItems, List.append_assoc] at h
    exact absurd h (bare_append_ne_bracket hv _ _)
  | v :: is, w :: js, r, s, ⟨hv, his⟩, ⟨hw, hjs⟩, hnumbers, h => by
    simp only [bareItems, List.append_assoc] at h
    -- an item ends where a comma or the closing bracket stands
    obtain ⟨hvalue, h⟩ := bare_append_inj v hv hw hnumbers.append_left
      (endsWord_comma_append bareItems_nil (by decide) is r)
      (endsWord_comma_append bareItems_nil (by decide) js s) h
    obtain ⟨hrest, hrs⟩ := bareItems_append_inj is his hjs hnumbers.append_right
      (comma_append_inj bareItems_nil (by decide) h)
    refine ⟨?_, hrs⟩
    rw [itemsAsBytes, itemsAsBytes, hvalue, hrest]

end

end OptionValue

end ProtoSchema
