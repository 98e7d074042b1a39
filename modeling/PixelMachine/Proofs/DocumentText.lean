import PixelMachine.Json.Printer
import PixelMachine.Json.Reader
import Mathlib.Algebra.Group.Int.Defs
import Mathlib.Data.List.Basic

/-!
# The text of a document

A document that is written in JSON is read as it was. This asks for two things of it: its numbers are whole
and fit into 64 bits, and no object repeats a key (`Value.Plain`). Any document that is written as a value of
the machine is of this kind.

The writer adds to a text, so what it adds is spelled out first (`Printer.spelling`), and then read piece by
piece. A piece is read off the front of a text: blanks are passed over, a string ends with its quote, and a
number ends where something follows that does not go on with it (`Reader.Ends`). That all of a document is
read is proved by induction on it (`Reader.isRead_of_plain`). The reader counts down while it reads, and twice
the length of the text is enough for it.

The main result is `Value.ofText?_pretty`.
-/

set_option autoImplicit false

namespace PixelMachine.Json

/-- A document with whole numbers that 64 bits hold, and with different keys in each object. -/
inductive Value.Plain : Value → Prop where
  | null : Plain .null
  | bool (b : Bool) : Plain (.bool b)
  | int {n : Int} (hlo : -2 ^ 63 ≤ n) (hhi : n < 2 ^ 64) : Plain (.int n)
  | string (s : String) : Plain (.string s)
  | list {items : List Value} (h : ∀ v ∈ items, Plain v) : Plain (.list items)
  | object {members : List (String × Value)} (hkeys : (members.map Prod.fst).Nodup)
      (h : ∀ m ∈ members, Plain m.2) : Plain (.object members)

namespace Printer

/-- The line break and the blanks in front of an item. -/
def gap (level : Option Nat) : List Char := (lineBreak level).toList

/-- A text in quotes. -/
def quoted (s : String) : List Char := '"' :: s.toList.flatMap (escapeChar false) ++ ['"']

/-- What stands between a key and its value. -/
def afterKey (level : Option Nat) : List Char := (colon level).toList

mutual

/-- The characters of a document. -/
def spelling (level : Option Nat) : Value → List Char
  | .null => ['n', 'u', 'l', 'l']
  | .bool true => ['t', 'r', 'u', 'e']
  | .bool false => ['f', 'a', 'l', 's', 'e']
  | .int n => (toString n).toList
  | .decimal text => text.toList
  | .string s => quoted s
  | .list [] => ['[', ']']
  | .list (v :: rest) =>
    let inner := level.map (· + 1)
    '[' :: (gap inner ++ (spelling inner v ++ (itemsSpelling inner rest ++ (gap level ++ [']']))))
  | .object [] => ['\x7b', '\x7d']
  | .object ((key, v) :: rest) =>
    let inner := level.map (· + 1)
    '\x7b' :: (gap inner ++ (quoted key ++ (afterKey level ++ (spelling inner v ++
      (membersSpelling inner rest ++ (gap level ++ ['\x7d']))))))

/-- The characters of the items after the first one, with the comma before each. -/
def itemsSpelling (level : Option Nat) : List Value → List Char
  | [] => []
  | v :: rest => ',' :: (gap level ++ (spelling level v ++ itemsSpelling level rest))

/-- The characters of the members after the first one, with the comma before each. -/
def membersSpelling (level : Option Nat) : List (String × Value) → List Char
  | [] => []
  | (key, v) :: rest =>
    ',' :: (gap level ++ (quoted key ++ (afterKey level ++ (spelling level v ++
      membersSpelling level rest))))

end

/-- A text in quotes has these characters. -/
theorem toList_quote (s : String) : (quote false s).toList = quoted s := by
  simp [quote, quoted]

mutual

/-- Writing a document adds its characters. -/
theorem toList_write (level : Option Nat) (written : String) (v : Value) :
    (write false level written v).toList = written.toList ++ spelling level v := by
  match v with
  | .null | .bool true | .bool false | .int n | .decimal text => simp [write, spelling]
  | .string s => simp [write, spelling, toList_quote]
  | .list [] => simp [write, spelling]
  | .list (v :: rest) =>
    simp [write, spelling, toList_writeItems _ _ rest, toList_write _ _ v, gap]
  | .object [] => simp [write, spelling]
  | .object ((key, v) :: rest) =>
    simp [write, spelling, toList_writeMembers _ _ rest, toList_write _ _ v, gap, toList_quote, afterKey]

/-- Writing the further items of a list adds their characters. -/
theorem toList_writeItems (level : Option Nat) (written : String) (items : List Value) :
    (writeItems false level written items).toList = written.toList ++ itemsSpelling level items := by
  match items with
  | [] => simp [writeItems, itemsSpelling]
  | v :: rest =>
    simp [writeItems, itemsSpelling, toList_writeItems _ _ rest, toList_write _ _ v, gap]

/-- Writing the further members of an object adds their characters. -/
theorem toList_writeMembers (level : Option Nat) (written : String) (members : List (String × Value)) :
    (writeMembers false level written members).toList =
      written.toList ++ membersSpelling level members := by
  match members with
  | [] => simp [writeMembers, membersSpelling]
  | (key, v) :: rest =>
    simp [writeMembers, membersSpelling, toList_writeMembers _ _ rest, toList_write _ _ v, gap, toList_quote,
      afterKey]

end

end Printer

namespace Reader

open Printer

/-! ## Blanks -/

/-- Where a document starts, there are no blanks to pass over. -/
theorem skipSpace_cons {c : Char} {cs : List Char} (hc : isSpace c = false) :
    skipSpace (c :: cs) = c :: cs := by
  rw [skipSpace, List.dropWhile_cons, hc]
  rfl

/-- Blanks at the front are passed over. -/
theorem skipSpace_append {blanks cs : List Char} (h : ∀ c ∈ blanks, isSpace c = true) :
    skipSpace (blanks ++ cs) = skipSpace cs := by
  induction blanks with
  | nil => rfl
  | cons c rest ih =>
    have hrest := ih fun d hd => h d (List.mem_cons_of_mem c hd)
    rw [List.cons_append, skipSpace, List.dropWhile_cons, h c List.mem_cons_self, if_pos rfl]
    exact hrest

/-- There are only blanks in a gap. -/
theorem isSpace_of_mem_gap {level : Option Nat} {c : Char} (hc : c ∈ gap level) : isSpace c = true := by
  cases level with
  | none => simp [gap, lineBreak] at hc
  | some n =>
    simp only [gap, lineBreak, String.toList_append, List.mem_append, String.toList_ofList,
      List.mem_replicate] at hc
    obtain hc | ⟨-, rfl⟩ := hc
    · obtain rfl : c = '\n' := by simpa using hc
      rfl
    · rfl

/-- A gap is passed over. -/
theorem skipSpace_gap (level : Option Nat) (cs : List Char) :
    skipSpace (gap level ++ cs) = skipSpace cs :=
  skipSpace_append fun _ hc => isSpace_of_mem_gap hc

/-! ## Strings -/

/-- Below 32, the hexadecimal digits of a number are read as this number. -/
theorem hex4?_of_lt {n : Nat} (hn : n < 32) (cs : List Char) :
    hex4? (hexDigit (n / 4096 % 16) :: hexDigit (n / 256 % 16) :: hexDigit (n / 16 % 16) ::
      hexDigit (n % 16) :: cs) = some (n, cs) := by
  have hdigits : ∀ n < 32, Text.hexadecimal? [hexDigit (n / 4096 % 16), hexDigit (n / 256 % 16),
      hexDigit (n / 16 % 16), hexDigit (n % 16)] = some n := by decide
  simp [hex4?, hdigits n hn]

/-- One written character is read as this character. -/
theorem string?_escapeChar (limit : Nat) (done : List Char) (c : Char) (cs : List Char) :
    string? (limit + 1) done (escapeChar false c ++ cs) = string? limit (c :: done) cs := by
  unfold escapeChar
  -- seven characters have an escape of one letter
  iterate 7
    split
    · subst_vars; rfl
  split
  · next h =>
    have hhigh : isHighSurrogate c.toNat = false := by
      simp only [isHighSurrogate, Bool.and_eq_false_iff, decide_eq_false_iff_not]
      omega
    have hlow : isLowSurrogate c.toNat = false := by
      simp only [isLowSurrogate, Bool.and_eq_false_iff, decide_eq_false_iff_not]
      omega
    have hescape : unicodeEscape? (hexDigit (c.toNat / 4096 % 16) :: hexDigit (c.toNat / 256 % 16) ::
        hexDigit (c.toNat / 16 % 16) :: hexDigit (c.toNat % 16) :: cs) = some (c, cs) := by
      simp [unicodeEscape?, hex4?_of_lt h, hhigh, hlow]
    simp [unitEscape, string?, hescape]
  · next hquote hbackslash _ _ _ _ _ hcontrol =>
    rw [if_neg (by simp)]
    simp [string?, hquote, hbackslash, hcontrol]

/-- Characters that are written one after the other are read up to the closing quote. -/
theorem string?_flatMap {limit : Nat} (s : List Char) (done : List Char) (cs : List Char)
    (hlimit : s.length < limit) :
    string? limit done (s.flatMap (escapeChar false) ++ '"' :: cs) =
      some (String.ofList (done.reverse ++ s), cs) := by
  induction s generalizing limit done with
  | nil =>
    obtain ⟨limit, rfl⟩ := Nat.exists_eq_add_one.2 hlimit
    simp [string?]
  | cons c s ih =>
    obtain ⟨limit, rfl⟩ := Nat.exists_eq_add_one.2 (Nat.zero_lt_of_lt hlimit)
    rw [List.flatMap_cons, List.append_assoc, string?_escapeChar,
      ih (c :: done) (Nat.lt_of_succ_lt_succ hlimit)]
    simp

/-- What is written in quotes is read. -/
theorem string?_quoted {limit : Nat} (s : String) (cs : List Char) (hlimit : s.toList.length < limit) :
    string? limit [] (s.toList.flatMap (escapeChar false) ++ '"' :: cs) = some (s, cs) := by
  rw [string?_flatMap s.toList [] cs hlimit]
  simp

/-! ## Numbers -/

/-- What follows a number does not go on with it. -/
def Ends (cs : List Char) : Prop :=
  ∀ c ∈ cs.head?, c.isDigit = false ∧ c ≠ '.' ∧ c ≠ 'e' ∧ c ≠ 'E'

/-- The digits of a number that is not zero do not start with one. -/
theorem head?_toDigits {n : Nat} (hn : 0 < n) : (Nat.toDigits 10 n).head? ≠ some '0' := by
  induction n using Nat.strongRecOn with
  | ind n ih =>
    rw [Nat.toDigits_eq_if (by decide)]
    split
    · next hlt =>
      have hdigit : ∀ n < 10, 0 < n → n.digitChar ≠ '0' := by decide
      simpa using hdigit n hlt hn
    · next hle =>
      have hrest := ih (n / 10) (by omega) (by omega)
      rw [List.head?_append]
      cases hhead : (Nat.toDigits 10 (n / 10)).head? with
      | none => simp [Nat.toDigits_ne_nil] at hhead
      | some c =>
        rw [hhead] at hrest
        simpa using hrest

/-- The digits of a number are read up to where it ends. -/
theorem digits?_toDigits (n : Nat) {cs : List Char} (hcs : Ends cs) :
    digits? (Nat.toDigits 10 n ++ cs) = some (Nat.toDigits 10 n, cs) := by
  have hall : ∀ c ∈ Nat.toDigits 10 n, c.isDigit = true :=
    fun c hc => Nat.isDigit_of_mem_toDigits (by decide) (by decide) hc
  have htail : cs.takeWhile Char.isDigit = [] ∧ cs.dropWhile Char.isDigit = cs := by
    cases cs with
    | nil => exact ⟨rfl, rfl⟩
    | cons c cs =>
      have hc := (hcs c rfl).1
      rw [List.takeWhile_cons, List.dropWhile_cons, hc]
      exact ⟨rfl, rfl⟩
  rw [digits?, List.takeWhile_append_of_pos hall, List.dropWhile_append_of_pos hall, htail.1, htail.2,
    List.append_nil]
  split
  · next h => exact absurd h Nat.toDigits_ne_nil
  · rfl

/-- The digits of a number are a whole part, which has no zeros at the front. -/
theorem whole?_toDigits (n : Nat) {cs : List Char} (hcs : Ends cs) :
    whole? (Nat.toDigits 10 n ++ cs) = some (Nat.toDigits 10 n, cs) := by
  rw [whole?, digits?_toDigits n hcs]
  have hzero : ¬ ((Nat.toDigits 10 n).length > 1 ∧ (Nat.toDigits 10 n).head? = some '0') := by
    rintro ⟨hlength, hhead⟩
    obtain rfl | hn := Nat.eq_zero_or_pos n
    · simp at hlength
    · exact head?_toDigits hn hhead
  simp [hzero]

/-- Where a number ends there is no fraction. -/
theorem fraction?_of_ends {cs : List Char} (hcs : Ends cs) : fraction? cs = some ([], cs) := by
  cases cs with
  | nil => rfl
  | cons c cs =>
    have hpoint := (hcs c rfl).2.1
    rw [fraction?.eq_def]
    split
    · next h => exact absurd (List.cons.inj h).1 hpoint
    · rfl

/-- Where a number ends there is no exponent. -/
theorem exponent?_of_ends {cs : List Char} (hcs : Ends cs) : exponent? cs = some ([], cs) := by
  cases cs with
  | nil => rfl
  | cons c cs =>
    obtain ⟨-, -, hsmall, hlarge⟩ := hcs c rfl
    simp [exponent?, hsmall, hlarge]

/-- A number has a first digit. -/
theorem exists_toDigits (n : Nat) : ∃ d ds, Nat.toDigits 10 n = d :: ds ∧ d.isDigit = true := by
  obtain ⟨d, ds, h⟩ := List.exists_cons_of_ne_nil (Nat.toDigits_ne_nil (n := n) (b := 10))
  have hmem : d ∈ Nat.toDigits 10 n := h ▸ List.mem_cons_self
  exact ⟨d, ds, h, Nat.isDigit_of_mem_toDigits (by decide) (by decide) hmem⟩

/-- The digits of a number have no minus in front of them. -/
theorem minus_toDigits (n : Nat) (cs : List Char) :
    minus (Nat.toDigits 10 n ++ cs) = (false, Nat.toDigits 10 n ++ cs) := by
  obtain ⟨d, ds, h, hdigit⟩ := exists_toDigits n
  rw [h, List.cons_append, minus.eq_def]
  split
  · next heq =>
    rw [(List.cons.inj heq).1] at hdigit
    cases hdigit
  · rfl

/-- A whole number that 64 bits hold is read. -/
theorem number?_toString {n : Int} (hlo : -2 ^ 63 ≤ n) (hhi : n < 2 ^ 64) {cs : List Char}
    (hcs : Ends cs) : number? ((toString n).toList ++ cs) = some (.int n, cs) := by
  have hdigits : ∀ k : Nat, Nat.ofDigitChars 10 (Nat.toDigits 10 k) 0 = k :=
    fun k => Nat.ofDigitChars_toDigits (by decide) (by decide)
  cases n with
  | ofNat n =>
    have hn : n < UInt64.size := by
      change n < 2 ^ 64
      have hcast : (n : Int) < 2 ^ 64 := hhi
      omega
    have htext : (toString (Int.ofNat n)).toList = Nat.toDigits 10 n := Nat.toList_repr
    rw [htext, number?]
    simp [minus_toDigits, whole?_toDigits n hcs, fraction?_of_ends hcs, exponent?_of_ends hcs, hdigits, hn]
  | negSucc n =>
    have hn : Int64.minValue.toInt ≤ -((n + 1 : Nat) : Int) := hlo
    have htext : (toString (Int.negSucc n)).toList = '-' :: Nat.toDigits 10 (n + 1) := by
      change ("-" ++ (n + 1).repr).toList = _
      simp
    rw [htext, List.cons_append, number?, minus]
    simp only [whole?_toDigits (n + 1) hcs, fraction?_of_ends hcs, exponent?_of_ends hcs, hdigits, bind,
      Option.bind, List.isEmpty_nil, if_true, true_and, Nat.succ_pos, hn]
    rfl

/-! ## Documents -/

/-- A digit or a minus, with which a number starts. -/
def StartsNumber (c : Char) : Prop := c.isDigit = true ∨ c = '-'

/-- What a number starts with starts nothing else, and is no blank. -/
theorem StartsNumber.ne {c d : Char} (hc : StartsNumber c)
    (hd : d ∈ [' ', '\t', '\n', '\r', 'n', 't', 'f', '"', '[', ']', '\x7b', '\x7d']) : c ≠ d := by
  rintro rfl
  -- a test of the listed characters one by one, since deciding the statement would go through all there are
  have hnone : [' ', '\t', '\n', '\r', 'n', 't', 'f', '"', '[', ']', '\x7b', '\x7d'].all
      (fun d => !(d.isDigit || d == '-')) = true := by decide
  have hc' := List.all_eq_true.1 hnone c hd
  rcases hc with hc | rfl
  · simp [hc] at hc'
  · cases hc'

/-- What a number starts with is no blank. -/
theorem StartsNumber.isSpace {c : Char} (hc : StartsNumber c) : isSpace c = false := by
  simp [Reader.isSpace, hc.ne]

/-- A number starts with a digit or a minus. -/
theorem exists_toString (n : Int) : ∃ c cs, (toString n).toList = c :: cs ∧ StartsNumber c := by
  cases n with
  | ofNat n =>
    obtain ⟨d, ds, h, hdigit⟩ := exists_toDigits n
    have htext : (toString (Int.ofNat n)).toList = Nat.toDigits 10 n := Nat.toList_repr
    exact ⟨d, ds, htext.trans h, .inl hdigit⟩
  | negSucc n => exact ⟨'-', (n + 1).repr.toList, by change ("-" ++ (n + 1).repr).toList = _; simp, .inr rfl⟩

/-- A document that starts like a number is read as one. -/
theorem value?_of_startsNumber {limit fuel : Nat} {c : Char} {cs : List Char} (hc : StartsNumber c) :
    value? limit (fuel + 1) (c :: cs) = number? (c :: cs) := by
  rw [value?, skipSpace_cons hc.isSpace]
  split
  case h_7 => rfl
  all_goals
    next heq => exact absurd (List.cons.inj heq).1 (hc.ne (by decide))

/-- A document starts with a character that is no blank and closes nothing. -/
theorem exists_spelling (level : Option Nat) {v : Value} (hv : v.Plain) :
    ∃ c cs, spelling level v = c :: cs ∧ isSpace c = false ∧ c ≠ ']' ∧ c ≠ '\x7d' := by
  cases hv with
  | null => exact ⟨_, _, rfl, by decide⟩
  | bool b => cases b <;> exact ⟨_, _, rfl, by decide⟩
  | string s => exact ⟨_, _, rfl, by decide⟩
  | @list items h => cases items <;> exact ⟨_, _, rfl, by decide⟩
  | @object members hkeys h =>
    cases members <;> exact ⟨_, _, rfl, by decide⟩
  | int hlo hhi =>
    obtain ⟨c, cs, h, hc⟩ := exists_toString _
    exact ⟨c, cs, h, hc.isSpace, hc.ne (by decide), hc.ne (by decide)⟩

/-- Blanks in front of a document are passed over. -/
theorem value?_gap (limit fuel : Nat) (level : Option Nat) (cs : List Char) :
    value? limit fuel (gap level ++ cs) = value? limit fuel cs := by
  cases fuel with
  | zero => rfl
  | succ fuel => rw [value?, value?, skipSpace_gap]

/-- After a key stands a colon, and then perhaps a blank. -/
theorem exists_afterKey (level : Option Nat) (cs : List Char) :
    ∃ blanks, afterKey level ++ cs = ':' :: (blanks ++ cs) ∧
      ∀ limit fuel, value? limit fuel (blanks ++ cs) = value? limit fuel cs := by
  cases level with
  | none => exact ⟨[], rfl, fun _ _ => rfl⟩
  | some n =>
    refine ⟨[' '], by simp [afterKey, colon], ?_⟩
    intro limit fuel
    cases fuel with
    | zero => rfl
    | succ fuel => rw [value?, value?, skipSpace_append (by simp [isSpace])]

/-- What follows a document does not go on with it, be it a comma or the end of a list or an object. -/
theorem ends_comma (cs : List Char) : Ends (',' :: cs) := by
  intro c hc
  cases hc
  decide

/-- The end of a list or an object does not go on with a number. -/
theorem ends_close (level : Option Nat) {close : Char} (hclose : close = ']' ∨ close = '\x7d')
    (cs : List Char) : Ends (gap level ++ close :: cs) := by
  intro c hc
  cases level with
  | none =>
    cases hc
    rcases hclose with rfl | rfl <;> decide
  | some n =>
    obtain rfl : '\n' = c := by simpa [gap, lineBreak] using hc
    decide

/-- A document is read off the front of a text, if the fuel is twice its length. -/
def IsRead (v : Value) : Prop :=
  ∀ level limit fuel cs, 2 * (spelling level v).length ≤ fuel → (spelling level v).length < limit →
    Ends cs → value? limit fuel (spelling level v ++ cs) = some (v, cs)

section Containers

variable {limit : Nat} (level closing : Option Nat) (cs : List Char)

/-- A gap in front of an item is passed over. -/
theorem items?_gap (fuel : Nat) (done : List Value) :
    items? limit fuel done (gap level ++ cs) = items? limit fuel done cs := by
  cases fuel with
  | zero => rfl
  | succ fuel => rw [items?, items?, value?_gap]

/-- The items that are left of a list are read up to its end. -/
theorem items?_spelling {v : Value} {rest : List Value} (hv : IsRead v) (hrest : ∀ w ∈ rest, IsRead w)
    {fuel : Nat} (done : List Value)
    (hfuel : 2 * ((spelling level v).length + (itemsSpelling level rest).length) < fuel)
    (hlimit : (spelling level v).length + (itemsSpelling level rest).length < limit) :
    items? limit fuel done
        (spelling level v ++ (itemsSpelling level rest ++ (gap closing ++ ']' :: cs))) =
      some (.list (done.reverse ++ v :: rest), cs) := by
  induction rest generalizing v fuel done with
  | nil =>
    obtain ⟨fuel, rfl⟩ := Nat.exists_eq_add_one.2 (Nat.zero_lt_of_lt hfuel)
    have hfirst := hv level limit fuel (gap closing ++ ']' :: cs)
      (by simp [itemsSpelling] at hfuel; omega) (by simp [itemsSpelling] at hlimit; omega)
      (ends_close closing (.inl rfl) cs)
    simp [items?, itemsSpelling, hfirst, skipSpace_gap, skipSpace_cons (show isSpace ']' = false from rfl)]
  | cons w rest ih =>
    obtain ⟨fuel, rfl⟩ := Nat.exists_eq_add_one.2 (Nat.zero_lt_of_lt hfuel)
    simp only [itemsSpelling, List.length_cons, List.length_append] at hfuel hlimit
    have hfirst := hv level limit fuel (',' :: (gap level ++ (spelling level w ++ (itemsSpelling level rest ++
      (gap closing ++ ']' :: cs))))) (by omega) (by omega) (ends_comma _)
    have hmore := ih (hrest w List.mem_cons_self) (fun u hu => hrest u (List.mem_cons_of_mem w hu))
      (v :: done)
      (show 2 * ((spelling level w).length + (itemsSpelling level rest).length) < fuel by omega)
      (by omega)
    simp only [itemsSpelling, List.cons_append, List.append_assoc]
    rw [items?, hfirst]
    simp [skipSpace_cons (show isSpace ',' = false from rfl), items?_gap, hmore]

/-- A new key is put at the end. -/
theorem putMember_of_not_mem {members : List (String × Value)} {key : String} {v : Value}
    (h : key ∉ members.map Prod.fst) : putMember members key v = members ++ [(key, v)] := by
  have hany : members.any (·.1 == key) = false := by
    rw [List.any_eq_false]
    intro m hm heq
    exact h (List.mem_map.2 ⟨m, hm, eq_of_beq heq⟩)
  rw [putMember, hany]
  rfl

/-- A key that comes after others with different keys is none of them. -/
theorem not_mem_of_nodup {done rest : List (String × Value)} {key : String} {v : Value}
    (h : ((done ++ (key, v) :: rest).map Prod.fst).Nodup) : key ∉ done.map Prod.fst := by
  rw [List.map_append, List.map_cons, List.nodup_append] at h
  intro hmem
  exact h.2.2 key hmem key List.mem_cons_self rfl

/-- A gap in front of a member is passed over. -/
theorem members?_gap (fuel : Nat) (done : List (String × Value)) :
    members? limit fuel done (gap level ++ cs) = members? limit fuel done cs := by
  cases fuel with
  | zero => rfl
  | succ fuel => rw [members?, members?, skipSpace_gap]

/-- A string is no longer than it is in quotes. -/
theorem length_lt_quoted (s : String) : s.toList.length < (quoted s).length := by
  have hone : ∀ c, 1 ≤ (escapeChar false c).length := by
    intro c
    fun_cases escapeChar false c <;> simp [unitEscape]
  have hle : ∀ cs : List Char, cs.length ≤ (cs.flatMap (escapeChar false)).length := by
    intro cs
    induction cs with
    | nil => exact Nat.le_refl 0
    | cons c cs ih =>
      have hc := hone c
      rw [List.flatMap_cons, List.length_append, List.length_cons]
      omega
  have hbody := hle s.toList
  simp only [quoted, List.length_append, List.length_cons]
  omega

section Members

variable {key : String} {v : Value} (hv : IsRead v) (done : List (String × Value)) {fuel : Nat}
  (hfuel : 2 * (spelling level v).length ≤ fuel) (hkey : (quoted key).length < limit)
  (hlimit : (spelling level v).length < limit)

include hv hfuel hkey hlimit

/-- A member before a comma is read, and then the members after it. -/
theorem members?_comma :
    members? limit (fuel + 1) done
        (quoted key ++ (afterKey level ++ (spelling level v ++ ',' :: cs))) =
      members? limit fuel (putMember done key v) cs := by
  obtain ⟨blanks, hcolon, hblanks⟩ := exists_afterKey level (spelling level v ++ ',' :: cs)
  have hstring := string?_quoted key (':' :: (blanks ++ (spelling level v ++ ',' :: cs)))
    (Nat.lt_trans (length_lt_quoted key) hkey)
  have hvalue := hv level limit fuel _ hfuel hlimit (ends_comma cs)
  rw [hcolon, quoted, members?]
  simp [skipSpace_cons, isSpace, hstring, hblanks, hvalue]

/-- The last member is read, and with it the object ends. -/
theorem members?_close :
    members? limit (fuel + 1) done
        (quoted key ++ (afterKey level ++ (spelling level v ++ (gap closing ++ '\x7d' :: cs)))) =
      some (.object (putMember done key v), cs) := by
  obtain ⟨blanks, hcolon, hblanks⟩ := exists_afterKey level
    (spelling level v ++ (gap closing ++ '\x7d' :: cs))
  have hstring := string?_quoted key
    (':' :: (blanks ++ (spelling level v ++ (gap closing ++ '\x7d' :: cs))))
    (Nat.lt_trans (length_lt_quoted key) hkey)
  have hvalue := hv level limit fuel _ hfuel hlimit (ends_close closing (.inr rfl) cs)
  rw [hcolon, quoted, members?]
  simp [skipSpace_cons, skipSpace_gap, isSpace, hstring, hblanks, hvalue]

end Members

/-- The members that are left of an object are read up to its end. -/
theorem members?_spelling {key : String} {v : Value} {rest : List (String × Value)} (hv : IsRead v)
    (hrest : ∀ m ∈ rest, IsRead m.2) {fuel : Nat} (done : List (String × Value))
    (hkeys : ((done ++ (key, v) :: rest).map Prod.fst).Nodup)
    (hfuel : 2 * ((quoted key).length + (spelling level v).length + (membersSpelling level rest).length)
      < fuel)
    (hlimit : (quoted key).length + (spelling level v).length + (membersSpelling level rest).length < limit) :
    members? limit fuel done
        (quoted key ++ (afterKey level ++ (spelling level v ++ (membersSpelling level rest ++
          (gap closing ++ '\x7d' :: cs))))) =
      some (.object (done ++ (key, v) :: rest), cs) := by
  induction rest generalizing key v fuel done with
  | nil =>
    obtain ⟨fuel, rfl⟩ := Nat.exists_eq_add_one.2 (Nat.zero_lt_of_lt hfuel)
    have hnew := not_mem_of_nodup hkeys
    rw [membersSpelling, List.nil_append,
      members?_close level closing cs hv done (by omega) (by omega) (by omega),
      putMember_of_not_mem hnew]
  | cons m rest ih =>
    obtain ⟨fuel, rfl⟩ := Nat.exists_eq_add_one.2 (Nat.zero_lt_of_lt hfuel)
    have hnew := not_mem_of_nodup hkeys
    simp only [membersSpelling, List.length_cons, List.length_append] at hfuel hlimit
    have hmore := ih (hrest m List.mem_cons_self) (fun u hu => hrest u (List.mem_cons_of_mem m hu))
      (done ++ [(key, v)]) (by simpa using hkeys)
      (show 2 * ((quoted m.1).length + (spelling level m.2).length +
        (membersSpelling level rest).length) < fuel by omega)
      (by omega)
    simp only [membersSpelling, List.cons_append, List.append_assoc]
    rw [members?_comma level _ hv done (by omega) (by omega) (by omega), putMember_of_not_mem hnew,
      members?_gap]
    simpa using hmore

end Containers

/-- A list with items is read item by item. -/
theorem value?_bracket {limit fuel : Nat} (level : Option Nat) {c : Char} {cs : List Char}
    (hspace : isSpace c = false) (hclose : c ≠ ']') :
    value? limit (fuel + 1) ('[' :: (gap level ++ c :: cs)) = items? limit fuel [] (c :: cs) := by
  have hskip := skipSpace_gap level (c :: cs)
  rw [skipSpace_cons hspace] at hskip
  rw [value?, skipSpace_cons rfl]
  simp only [hskip]
  split
  · next heq => exact absurd (List.cons.inj heq).1 hclose
  · rfl

/-- An object with members is read member by member. -/
theorem value?_brace {limit fuel : Nat} (level : Option Nat) {cs : List Char} :
    value? limit (fuel + 1) ('\x7b' :: (gap level ++ '"' :: cs)) = members? limit fuel [] ('"' :: cs) := by
  have hskip := skipSpace_gap level ('"' :: cs)
  rw [skipSpace_cons rfl] at hskip
  rw [value?, skipSpace_cons rfl]
  simp only [hskip]
  rfl

/-- The depth of a member does not show after its key. -/
theorem afterKey_map (level : Option Nat) : afterKey (level.map (· + 1)) = afterKey level := by
  cases level <;> rfl

/-- A document is not empty, so there is fuel for it. -/
theorem exists_fuel {v : Value} (hv : v.Plain) {level : Option Nat} {fuel : Nat}
    (hfuel : 2 * (spelling level v).length ≤ fuel) : ∃ left, fuel = left + 1 := by
  obtain ⟨c, cs, hspelling, -⟩ := exists_spelling level hv
  rw [hspelling, List.length_cons] at hfuel
  exact Nat.exists_eq_add_one.2 (by omega)

/-- Every plain document is read off the front of a text. -/
theorem isRead_of_plain {v : Value} (hv : v.Plain) : IsRead v := by
  induction hv with
  | null =>
    intro level limit fuel cs hfuel hlimit hcs
    obtain ⟨fuel, rfl⟩ := exists_fuel .null hfuel
    rfl
  | bool b =>
    intro level limit fuel cs hfuel hlimit hcs
    obtain ⟨fuel, rfl⟩ := exists_fuel (.bool b) hfuel
    cases b <;> rfl
  | @int n hlo hhi =>
    intro level limit fuel cs hfuel hlimit hcs
    obtain ⟨fuel, rfl⟩ := exists_fuel (.int hlo hhi) hfuel
    obtain ⟨c, ds, h, hc⟩ := exists_toString n
    have hnumber := number?_toString hlo hhi hcs
    simp only [spelling, h, List.cons_append] at hnumber ⊢
    rw [value?_of_startsNumber hc, hnumber]
  | string s =>
    intro level limit fuel cs hfuel hlimit hcs
    obtain ⟨fuel, rfl⟩ := exists_fuel (.string s) hfuel
    have hstring := string?_quoted s cs (Nat.lt_trans (length_lt_quoted s) hlimit)
    rw [spelling, quoted, value?]
    simp [skipSpace_cons, isSpace, hstring]
  | @list items h ih =>
    intro level limit fuel cs hfuel hlimit hcs
    obtain ⟨fuel, rfl⟩ := exists_fuel (.list h) hfuel
    cases items with
    | nil => rfl
    | cons v rest =>
      simp only [spelling, List.length_cons, List.length_append] at hfuel hlimit
      obtain ⟨c, ds, hfirst, hspace, hclose, -⟩ := exists_spelling (level.map (· + 1)) (h v List.mem_cons_self)
      have hitems := items?_spelling (level.map (· + 1)) level cs (ih v List.mem_cons_self)
        (fun w hw => ih w (List.mem_cons_of_mem v hw)) []
        (show _ < fuel by omega) (show _ < limit by omega)
      rw [hfirst] at hitems
      simp only [spelling, List.cons_append, List.append_assoc, hfirst]
      rw [value?_bracket _ hspace hclose]
      exact hitems
  | @object members hkeys h ih =>
    intro level limit fuel cs hfuel hlimit hcs
    obtain ⟨fuel, rfl⟩ := exists_fuel (.object hkeys h) hfuel
    cases members with
    | nil => rfl
    | cons m rest =>
      obtain ⟨key, v⟩ := m
      simp only [spelling, List.length_cons, List.length_append] at hfuel hlimit
      have hv : IsRead v := ih (key, v) List.mem_cons_self
      have hmembers := members?_spelling (level.map (· + 1)) level cs hv
        (fun w hw => ih w (List.mem_cons_of_mem _ hw)) [] hkeys
        (show _ < fuel by omega) (show _ < limit by omega)
      simp only [spelling, List.cons_append, List.append_assoc, quoted, List.nil_append,
        afterKey_map] at hmembers ⊢
      rw [value?_brace, hmembers]

end Reader

namespace Value

/-- What is written over several lines is read as it was, if it is plain. -/
theorem ofText?_pretty {v : Value} (hv : v.Plain) : ofText? v.pretty = some v := by
  have htext : v.pretty.toList = Printer.spelling (some 0) v := by
    rw [pretty, Printer.toList_write, String.toList_empty, List.nil_append]
  have hends : Reader.Ends [] := fun c hc => by cases hc
  have hread := Reader.isRead_of_plain hv (some 0) (v.pretty.toList.length + 1)
    (2 * v.pretty.toList.length + 2) [] (by rw [htext]; omega) (by rw [htext]; omega) hends
  rw [List.append_nil, ← htext] at hread
  rw [ofText?]
  simp only [hread]
  rfl

end Value

end PixelMachine.Json
