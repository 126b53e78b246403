import TextRepair.Json.Printer
import TextRepair.Json.Reader
import Mathlib.Data.List.Basic

/-!
# What a written value tells

A value without floating-point numbers is told by its text: no other such value is written the same way
(`Json.pretty_injective`). More is true of the parts, on which the proof rests (`Json.Tells`): wherever the
text of a value stands, it tells where it ends, as long as no digit follows. The first character tells the
kind of the value (`Json.Kind`), a quote ends a text since quotes within it are escaped, and commas,
line feeds and closing brackets cannot be taken for one another.
-/

namespace TextRepair.Json

/-- A value without floating-point numbers, all of whose parts can be used. -/
inductive IsExact : Json → Prop
  | null : IsExact .null
  | bool (b : Bool) : IsExact (.bool b)
  | int (n : Int) : IsExact (.int n)
  | text (s : String) : IsExact (.text s)
  | list {items : List Json} (h : ∀ item ∈ items, IsExact item) : IsExact (.list items)
  | object {fields : List (String × Json)} (h : ∀ field ∈ fields, IsExact field.2) :
    IsExact (.object fields)

/-- What follows does not go on with a number. -/
def EndsNumber (rest : List Char) : Prop :=
  ∀ c ∈ rest.head?, c.isDigit = false

/-- Among all values with the property `P`, what `f` writes for `a` stands for `a` alone, and it ends at one
place. -/
def Tells {α : Type} (P : α → Prop) (f : α → String) (a : α) : Prop :=
  ∀ b, P b → ∀ {rest rest' : List Char}, EndsNumber rest → EndsNumber rest' →
    (f a).toList ++ rest = (f b).toList ++ rest' → a = b ∧ rest = rest'

/-! ### Texts -/

/-- The character that is written first, and what follows it. -/
def unescape? : List Char → Option (Char × List Char)
  | [] => none
  | c :: rest =>
    if c ≠ '\\' then some (c, rest)
    else
      match rest with
      | 'u' :: _ :: _ :: high :: low :: rest =>
        some (Char.ofNat (16 * (Lexer.hexValue? high).getD 0 + (Lexer.hexValue? low).getD 0), rest)
      | mark :: rest => (Lexer.shortEscape? mark).map fun c => (c, rest)
      | [] => none

theorem unescape?_hex4 {n : Nat} (hn : n < 32) (rest : List Char) :
    unescape? ('\\' :: 'u' :: (hex4 n ++ rest)) = some (Char.ofNat n, rest) := by
  have hdigits : ∀ n < 32, ∃ high low, hex4 n = ['0', '0', high, low] ∧
      16 * (Lexer.hexValue? high).getD 0 + (Lexer.hexValue? low).getD 0 = n := by
    intro n hn
    refine ⟨Nat.digitChar (n / 16), Nat.digitChar (n % 16), ?_⟩
    revert n
    decide
  obtain ⟨high, low, hhex, hvalue⟩ := hdigits n hn
  rw [hhex, ← hvalue]
  rfl

theorem unescape?_escaped (c : Char) (rest : List Char) :
    unescape? (escaped c ++ rest) = some (c, rest) := by
  rw [escaped]
  split_ifs with hquote hslash hfeed hreturn htab hback hform hcontrol
  · rw [hquote]; rfl
  · rw [hslash]; rfl
  · rw [hfeed]; rfl
  · rw [hreturn]; rfl
  · rw [htab]; rfl
  · rw [Char.toNat_inj.mp (show c.toNat = ('\x08' : Char).toNat from hback)]; rfl
  · rw [Char.toNat_inj.mp (show c.toNat = ('\x0c' : Char).toNat from hform)]; rfl
  · rw [List.cons_append, List.cons_append, unescape?_hex4 hcontrol, Char.ofNat_toNat]
  · rw [List.singleton_append, unescape?.eq_def]
    exact if_pos hslash

theorem quote_ne_escaped (c : Char) (rest rest' : List Char) : '"' :: rest ≠ escaped c ++ rest' := by
  intro h
  have hread := congrArg unescape? h
  rw [unescape?_escaped] at hread
  obtain ⟨rfl, -⟩ := Prod.mk.inj (Option.some.inj (hread : some ('"', rest) = some (c, rest')))
  exact absurd (List.cons.inj h).1 (by decide)

theorem flatMap_escaped_inj {cs cs' rest rest' : List Char}
    (h : cs.flatMap escaped ++ '"' :: rest = cs'.flatMap escaped ++ '"' :: rest') :
    cs = cs' ∧ rest = rest' := by
  induction cs generalizing cs' with
  | nil =>
    cases cs' with
    | nil => exact ⟨rfl, (List.cons.inj h).2⟩
    | cons c' cs' =>
      rw [List.flatMap_cons, List.append_assoc] at h
      exact absurd h (quote_ne_escaped c' _ _)
  | cons c cs ih =>
    cases cs' with
    | nil =>
      rw [List.flatMap_cons, List.append_assoc] at h
      exact absurd h.symm (quote_ne_escaped c _ _)
    | cons c' cs' =>
      rw [List.flatMap_cons, List.flatMap_cons, List.append_assoc, List.append_assoc] at h
      have hread := congrArg unescape? h
      rw [unescape?_escaped, unescape?_escaped] at hread
      obtain ⟨rfl, hrest⟩ := Prod.mk.inj (Option.some.inj hread)
      obtain ⟨rfl, htail⟩ := ih hrest
      exact ⟨rfl, htail⟩

theorem toList_string (s : String) : (string s).toList = '"' :: (s.toList.flatMap escaped ++ ['"']) := by
  rw [string, String.toList_ofList, List.cons_append]

theorem string_append_inj {s s' : String} {rest rest' : List Char}
    (h : (string s).toList ++ rest = (string s').toList ++ rest') : s = s' ∧ rest = rest' := by
  rw [toList_string, toList_string, List.cons_append, List.cons_append, List.append_assoc,
    List.append_assoc] at h
  obtain ⟨hchars, htail⟩ := flatMap_escaped_inj (List.cons.inj h).2
  exact ⟨String.toList_inj.mp hchars, htail⟩

/-! ### Whole numbers -/

theorem toDigits_append_inj {m n : Nat} {rest rest' : List Char} (hrest : EndsNumber rest)
    (hrest' : EndsNumber rest') (h : Nat.toDigits 10 m ++ rest = Nat.toDigits 10 n ++ rest') :
    m = n ∧ rest = rest' := by
  have hdigits (k : Nat) {rest : List Char} (hrest : EndsNumber rest) :
      (Nat.toDigits 10 k ++ rest).takeWhile Char.isDigit = Nat.toDigits 10 k := by
    rw [List.takeWhile_append_of_pos fun c => Nat.isDigit_of_mem_toDigits (by decide) (by decide)]
    cases rest with
    | nil => rw [List.takeWhile_nil, List.append_nil]
    | cons c rest => rw [List.takeWhile_cons, hrest c rfl, if_neg Bool.false_ne_true, List.append_nil]
  have hsame : Nat.toDigits 10 m = Nat.toDigits 10 n := by
    rw [← hdigits m hrest, h, hdigits n hrest']
  refine ⟨?_, ?_⟩
  · rw [← Nat.ofDigitChars_ten_toDigits (n := m), hsame, Nat.ofDigitChars_ten_toDigits]
  · rw [hsame] at h
    exact List.append_cancel_left h

theorem toList_natCast (k : Nat) : (toString (Int.ofNat k)).toList = Nat.toDigits 10 k :=
  Nat.toList_repr

theorem toList_negSucc (k : Nat) : (toString (Int.negSucc k)).toList = '-' :: Nat.toDigits 10 (k + 1) := by
  show ("-" ++ Nat.repr (k + 1)).toList = _
  rw [String.toList_append, Nat.toList_repr]
  rfl

theorem exists_toDigits_eq_cons (k : Nat) : ∃ c cs, Nat.toDigits 10 k = c :: cs ∧ c.isDigit = true := by
  obtain ⟨c, cs, hcs⟩ := List.exists_cons_of_ne_nil (Nat.toDigits_ne_nil (n := k) (b := 10))
  exact ⟨c, cs, hcs, Nat.isDigit_of_mem_toDigits (by decide) (by decide) (hcs ▸ List.mem_cons_self)⟩

theorem int_append_inj {m n : Int} {rest rest' : List Char} (hrest : EndsNumber rest)
    (hrest' : EndsNumber rest') (h : (toString m).toList ++ rest = (toString n).toList ++ rest') :
    m = n ∧ rest = rest' := by
  have hsign (k : Nat) (rest rest' : List Char) : Nat.toDigits 10 k ++ rest ≠ '-' :: rest' := by
    intro h
    obtain ⟨c, cs, hcs, hdigit⟩ := exists_toDigits_eq_cons k
    rw [hcs, List.cons_append] at h
    rw [(List.cons.inj h).1] at hdigit
    exact absurd hdigit (by decide)
  cases m with
  | ofNat m =>
    cases n with
    | ofNat n =>
      rw [toList_natCast, toList_natCast] at h
      obtain ⟨rfl, htail⟩ := toDigits_append_inj hrest hrest' h
      exact ⟨rfl, htail⟩
    | negSucc n =>
      rw [toList_natCast, toList_negSucc] at h
      exact absurd h (hsign m _ _)
  | negSucc m =>
    cases n with
    | ofNat n =>
      rw [toList_natCast, toList_negSucc] at h
      exact absurd h.symm (hsign n _ _)
    | negSucc n =>
      rw [toList_negSucc, toList_negSucc] at h
      obtain ⟨hnumber, htail⟩ := toDigits_append_inj hrest hrest' (List.cons.inj h).2
      exact ⟨by rw [Nat.succ.inj hnumber], htail⟩

/-! ### Lists of parts -/

theorem toList_newline (level : Nat) :
    (newline level).toList = '\n' :: List.replicate (2 * level) ' ' := by
  simp [newline]

/-- Parts behind the first one, each behind a comma on a line of its own. -/
def continued {α : Type} (f : α → String) (level : Nat) (as : List α) : List Char :=
  as.flatMap fun a => ',' :: ((newline level).toList ++ (f a).toList)

section Parts

variable {α : Type} {P : α → Prop} {f : α → String} {as bs : List α} {level : Nat}
  {rest rest' : List Char}

theorem continued_cons (f : α → String) (level : Nat) (a : α) (as : List α) : continued f level (a :: as) =
    ',' :: ((newline level).toList ++ (f a).toList ++ continued f level as) := by
  rw [continued, List.flatMap_cons, List.cons_append]
  rfl

theorem endsNumber_continued (f : α → String) (level : Nat) (as : List α) (rest : List Char) :
    EndsNumber (continued f level as ++ '\n' :: rest) := by
  cases as with
  | nil =>
    rintro c ⟨⟩
    rfl
  | cons a as =>
    rw [continued_cons]
    rintro c ⟨⟩
    rfl

theorem continued_append_inj (has : ∀ a ∈ as, Tells P f a) (hbs : ∀ b ∈ bs, P b)
    (h : continued f level as ++ '\n' :: rest = continued f level bs ++ '\n' :: rest') :
    as = bs ∧ rest = rest' := by
  induction as generalizing bs with
  | nil =>
    cases bs with
    | nil => exact ⟨rfl, (List.cons.inj h).2⟩
    | cons b bs =>
      rw [continued_cons] at h
      exact absurd (List.cons.inj h).1 (by decide)
  | cons a as ih =>
    cases bs with
    | nil =>
      rw [continued_cons] at h
      exact absurd (List.cons.inj h).1 (by decide)
    | cons b bs =>
      rw [List.forall_mem_cons] at has hbs
      rw [continued_cons, continued_cons] at h
      simp only [List.cons_append, List.append_assoc] at h
      obtain ⟨rfl, hmore⟩ := has.1 b hbs.1 (endsNumber_continued _ _ _ _) (endsNumber_continued _ _ _ _)
        (List.append_cancel_left (List.cons.inj h).2)
      obtain ⟨rfl, htail⟩ := ih has.2 hbs.2 hmore
      exact ⟨rfl, htail⟩

theorem toList_block_nil (opening closing : String) (level : Nat) :
    (block opening closing level []).toList = opening.toList ++ closing.toList :=
  String.toList_append

theorem toList_block_cons (opening closing : String) (f : α → String) (level : Nat) (a : α) (as : List α) :
    (block opening closing level ((a :: as).map f)).toList = opening.toList ++ ((newline (level + 1)).toList ++
      ((f a).toList ++ (continued f (level + 1) as ++ ((newline level).toList ++ closing.toList)))) := by
  have hparts : ((("," ++ newline (level + 1)).intercalate ((a :: as).map f))).toList =
      (f a).toList ++ continued f (level + 1) as := by
    induction as generalizing a with
    | nil => simp [continued]
    | cons next as ih =>
      rw [List.map_cons, List.map_cons, String.intercalate_cons_cons, ← List.map_cons, String.toList_append,
        String.toList_append, ih, continued_cons, String.toList_append]
      simp
  rw [block, if_neg (by simp)]
  simp only [String.toList_append, hparts, List.append_assoc]

theorem block_append_inj {opening closing : String} {last : Char} (hclosing : closing.toList = [last])
    (hlast : last ≠ '\n') (has : ∀ a ∈ as, Tells P f a) (hbs : ∀ b ∈ bs, P b)
    (h : (block opening closing level (as.map f)).toList ++ rest =
      (block opening closing level (bs.map f)).toList ++ rest') : as = bs ∧ rest = rest' := by
  have hmixed (b : α) (bs : List α) (rest rest' : List Char) :
      (block opening closing level []).toList ++ rest ≠
        (block opening closing level ((b :: bs).map f)).toList ++ rest' := by
    intro h
    rw [toList_block_nil, toList_block_cons, hclosing, toList_newline, List.append_assoc,
      List.append_assoc] at h
    exact hlast (List.cons.inj (List.append_cancel_left h)).1
  cases as with
  | nil =>
    cases bs with
    | nil => exact ⟨rfl, List.append_cancel_left h⟩
    | cons b bs => exact absurd h (hmixed b bs _ _)
  | cons a as =>
    cases bs with
    | nil => exact absurd h.symm (hmixed a as _ _)
    | cons b bs =>
      rw [List.forall_mem_cons] at has hbs
      rw [toList_block_cons, toList_block_cons, toList_newline level] at h
      simp only [List.append_assoc, List.cons_append] at h
      obtain ⟨rfl, hmore⟩ := has.1 b hbs.1 (endsNumber_continued _ _ _ _) (endsNumber_continued _ _ _ _)
        (List.append_cancel_left (List.append_cancel_left h))
      obtain ⟨rfl, htail⟩ := continued_append_inj has.2 hbs.2 hmore
      exact ⟨rfl, List.append_cancel_left (List.append_cancel_left htail)⟩

end Parts

/-! ### Values -/

theorem prettyItems_eq_map (level : Nat) (items : List Json) :
    prettyItems level items = items.map (prettyAt level) := by
  induction items with
  | nil => rw [prettyItems, List.map_nil]
  | cons item items ih => rw [prettyItems, ih, List.map_cons]

/-- A field of an object as it is written. -/
def prettyField (level : Nat) (field : String × Json) : String :=
  string field.1 ++ ": " ++ prettyAt level field.2

theorem prettyFields_eq_map (level : Nat) (fields : List (String × Json)) :
    prettyFields level fields = fields.map (prettyField level) := by
  induction fields with
  | nil => rw [prettyFields, List.map_nil]
  | cons field fields ih => rw [prettyFields, ih, List.map_cons, prettyField]

theorem tells_prettyField {level : Nat} {field : String × Json}
    (h : Tells IsExact (prettyAt level) field.2) :
    Tells (fun other : String × Json => IsExact other.2) (prettyField level) field := by
  intro other hother rest rest' hrest hrest' heq
  rw [prettyField, prettyField] at heq
  simp only [String.toList_append, List.append_assoc] at heq
  obtain ⟨hname, hmore⟩ := string_append_inj heq
  obtain ⟨hvalue, htail⟩ := h other.2 hother hrest hrest' (List.append_cancel_left hmore)
  exact ⟨Prod.ext hname hvalue, htail⟩

/-- What the first character of a value tells. -/
inductive Kind where
  | null
  | bool (b : Bool)
  | int
  | text
  | list
  | object

/-- The kind of a value that can be told by its text. -/
def kind : Json → Kind
  | .null | .unreadable => .null
  | .bool b => .bool b
  | .int _ | .float _ => .int
  | .text _ => .text
  | .list _ => .list
  | .object _ => .object

/-- The kind of the values that start with a character. -/
def Kind.ofChar (c : Char) : Kind :=
  if c = 'n' then .null
  else if c = 't' then .bool true
  else if c = 'f' then .bool false
  else if c = '"' then .text
  else if c = '[' then .list
  else if c = '\x7b' then .object
  else .int

theorem exists_toList_block (opening closing : String) (level : Nat) (parts : List String) :
    ∃ cs, (block opening closing level parts).toList = opening.toList ++ cs := by
  rw [block]
  split_ifs
  · exact ⟨_, String.toList_append⟩
  · simp only [String.toList_append, List.append_assoc]
    exact ⟨_, rfl⟩

theorem exists_toList_int (n : Int) : ∃ c cs, (toString n).toList = c :: cs ∧ Kind.ofChar c = .int := by
  cases n with
  | ofNat k =>
    obtain ⟨c, cs, hcs, hdigit⟩ := exists_toDigits_eq_cons k
    have hne (c' : Char) (h' : c'.isDigit = false) : c ≠ c' := by
      rintro rfl
      exact absurd (hdigit.symm.trans h') (by decide)
    refine ⟨c, cs, by rw [toList_natCast, hcs], ?_⟩
    rw [Kind.ofChar, if_neg (hne _ rfl), if_neg (hne _ rfl), if_neg (hne _ rfl), if_neg (hne _ rfl),
      if_neg (hne _ rfl), if_neg (hne _ rfl)]
  | negSucc k => exact ⟨'-', _, toList_negSucc k, rfl⟩

theorem exists_toList_prettyAt {j : Json} (hj : IsExact j) (level : Nat) :
    ∃ c cs, (prettyAt level j).toList = c :: cs ∧ Kind.ofChar c = j.kind := by
  cases hj with
  | null => exact ⟨'n', _, by rw [prettyAt]; rfl, rfl⟩
  | bool b =>
    cases b with
    | true => exact ⟨'t', _, by rw [prettyAt]; rfl, rfl⟩
    | false => exact ⟨'f', _, by rw [prettyAt]; rfl, rfl⟩
  | int n => rw [prettyAt]; exact exists_toList_int n
  | text s => exact ⟨'"', _, by rw [prettyAt, toList_string], rfl⟩
  | @list items h =>
    obtain ⟨cs, hcs⟩ := exists_toList_block "[" "]" level (prettyItems (level + 1) items)
    exact ⟨'[', cs, by rw [prettyAt, hcs]; rfl, rfl⟩
  | @object fields h =>
    obtain ⟨cs, hcs⟩ := exists_toList_block "\x7b" "\x7d" level (prettyFields (level + 1) fields)
    exact ⟨'\x7b', cs, by rw [prettyAt, hcs]; rfl, rfl⟩

theorem kind_eq_of_prettyAt_append {j j' : Json} (hj : IsExact j) (hj' : IsExact j') {level : Nat}
    {rest rest' : List Char}
    (h : (prettyAt level j).toList ++ rest = (prettyAt level j').toList ++ rest') : j.kind = j'.kind := by
  obtain ⟨c, cs, hcs, hkind⟩ := exists_toList_prettyAt hj level
  obtain ⟨c', cs', hcs', hkind'⟩ := exists_toList_prettyAt hj' level
  rw [hcs, hcs'] at h
  rw [← hkind, ← hkind', (List.cons.inj h).1]

theorem tells_prettyAt {j : Json} (hj : IsExact j) (level : Nat) : Tells IsExact (prettyAt level) j := by
  -- The first character tells the kind, so in each case the other value is of the same form.
  induction hj generalizing level with
  | null =>
    intro j' hj' rest rest' _ _ h
    have hkind := kind_eq_of_prettyAt_append .null hj' h
    cases hj' with
    | null => exact ⟨rfl, List.append_cancel_left h⟩
    | _ => cases hkind
  | bool b =>
    intro j' hj' rest rest' _ _ h
    have hkind := kind_eq_of_prettyAt_append (.bool b) hj' h
    cases hj' with
    | bool b' =>
      cases hkind
      exact ⟨rfl, List.append_cancel_left h⟩
    | _ => cases hkind
  | int n =>
    intro j' hj' rest rest' hrest hrest' h
    have hkind := kind_eq_of_prettyAt_append (.int n) hj' h
    cases hj' with
    | int n' =>
      rw [prettyAt, prettyAt] at h
      obtain ⟨rfl, htail⟩ := int_append_inj hrest hrest' h
      exact ⟨rfl, htail⟩
    | _ => cases hkind
  | text s =>
    intro j' hj' rest rest' _ _ h
    have hkind := kind_eq_of_prettyAt_append (.text s) hj' h
    cases hj' with
    | text s' =>
      rw [prettyAt, prettyAt] at h
      obtain ⟨rfl, htail⟩ := string_append_inj h
      exact ⟨rfl, htail⟩
    | _ => cases hkind
  | list hitems ih =>
    intro j' hj' rest rest' _ _ h
    have hkind := kind_eq_of_prettyAt_append (.list hitems) hj' h
    cases hj' with
    | list hitems' =>
      rw [prettyAt, prettyAt, prettyItems_eq_map, prettyItems_eq_map] at h
      obtain ⟨rfl, htail⟩ := block_append_inj rfl (by decide) (fun item hitem => ih item hitem _) hitems' h
      exact ⟨rfl, htail⟩
    | _ => cases hkind
  | object hfields ih =>
    intro j' hj' rest rest' _ _ h
    have hkind := kind_eq_of_prettyAt_append (.object hfields) hj' h
    cases hj' with
    | object hfields' =>
      rw [prettyAt, prettyAt, prettyFields_eq_map, prettyFields_eq_map] at h
      obtain ⟨rfl, htail⟩ := block_append_inj rfl (by decide)
        (fun field hfield => tells_prettyField (ih field hfield _)) hfields' h
      exact ⟨rfl, htail⟩
    | _ => cases hkind

/-- Values without floating-point numbers that are written the same way are the same. -/
theorem pretty_injective {j j' : Json} (hj : IsExact j) (hj' : IsExact j') (h : j.pretty = j'.pretty) :
    j = j' := by
  have hchars : (prettyAt 0 j).toList ++ [] = (prettyAt 0 j').toList ++ [] :=
    congrArg (String.toList · ++ []) h
  exact (tells_prettyAt hj 0 j' hj' (by simp [EndsNumber]) (by simp [EndsNumber]) hchars).1

end TextRepair.Json
