import SchemaGrammar.Document.Json
import SchemaGrammar.Proofs.CodePoints

/-!
# The texts of JSON values

`Json.Written` is the grammar of JSON as a relation between values and their texts. Members of an
object are kept in order, repeats included, and numbers are kept as they are written. A text has at
most one value (`Json.Written.value_unique`): each part of it ends where a character follows that
cannot belong to the part.
-/
namespace SchemaGrammar

inductive Json where
  | null
  | bool (b : Bool)
  | number (text : List Char)
  | string (s : String)
  | array (items : List Json)
  | object (members : List (String × Json))

namespace Json

def IsBlank (w : List Char) : Prop := ∀ c ∈ w, Document.Json.isBlank c = true

/-- What stands between quotes, and its code points. -/
inductive Content : List Nat → List Char → Prop
  | nil : Content [] []
  | plain {c ns w} : 32 ≤ c.toNat → c ≠ '"' → c ≠ '\\' → Content ns w →
      Content (c.toNat :: ns) (c :: w)
  | escape {e n ns w} : Document.Json.escaped? e = some n → Content ns w →
      Content (n :: ns) ('\\' :: e :: w)
  | hex {digits ns w} : digits.length = 4 → (∀ d ∈ digits, Text.isHexDigit d = true) →
      Content ns w → Content (Text.hexValue digits :: ns) ('\\' :: 'u' :: (digits ++ w))

inductive IsString : String → List Char → Prop
  | mk {ns w} : Content ns w →
      IsString (String.ofList (Text.hold (Text.joinPairs ns))) ('"' :: w ++ ['"'])

def IsDigits (w : List Char) : Prop := w ≠ [] ∧ ∀ c ∈ w, c.isDigit = true

/-- Digits without needless zeros in front. -/
def IsWhole (w : List Char) : Prop := IsDigits w ∧ (w.head? = some '0' → w = ['0'])

def IsFraction (w : List Char) : Prop := w = [] ∨ ∃ digits, IsDigits digits ∧ w = '.' :: digits

def IsExponent (w : List Char) : Prop :=
  w = [] ∨ ∃ e sign digits, (e = 'e' ∨ e = 'E') ∧ (sign = [] ∨ sign = ['+'] ∨ sign = ['-']) ∧
    IsDigits digits ∧ w = e :: sign ++ digits

inductive IsNumber : List Char → Prop
  | mk {sign whole fraction exponent} : sign = [] ∨ sign = ['-'] → IsWhole whole →
      IsFraction fraction → IsExponent exponent → IsNumber (sign ++ whole ++ fraction ++ exponent)

inductive Atom : Json → List Char → Prop
  | null : Atom null "null".toList
  | bool {b : Bool} : Atom (bool b) (toString b).toList
  | number {w} : IsNumber w → Atom (number w) w
  | string {s w} : IsString s w → Atom (string s) w

inductive Part where
  | value (v : Json)
  /-- A value with blanks around it. -/
  | element (v : Json)
  /-- What stands between brackets. -/
  | elements (vs : List Json)
  /-- Elements with a comma before each. -/
  | items (vs : List Json)
  | member (name : String) (v : Json)
  /-- What stands between braces. -/
  | fields (ms : List (String × Json))
  /-- Members with a comma before each. -/
  | members (ms : List (String × Json))

inductive Written : Part → List Char → Prop
  | atom {v w} : Atom v w → Written (.value v) w
  | array {vs w} : Written (.elements vs) w → Written (.value (array vs)) ('[' :: w ++ [']'])
  | object {ms w} : Written (.fields ms) w → Written (.value (object ms)) ('\x7b' :: w ++ ['\x7d'])
  | element {u v w x} : IsBlank u → Written (.value v) w → IsBlank x →
      Written (.element v) (u ++ w ++ x)
  | noElements {u} : IsBlank u → Written (.elements []) u
  | elements {v vs w x} : Written (.element v) w → Written (.items vs) x →
      Written (.elements (v :: vs)) (w ++ x)
  | noItems : Written (.items []) []
  | items {v vs w x} : Written (.element v) w → Written (.items vs) x →
      Written (.items (v :: vs)) (',' :: w ++ x)
  | member {name u v w x y} : IsBlank u → IsString name w → IsBlank x → Written (.element v) y →
      Written (.member name v) (u ++ w ++ x ++ ':' :: y)
  | noFields {u} : IsBlank u → Written (.fields []) u
  | fields {name v ms w x} : Written (.member name v) w → Written (.members ms) x →
      Written (.fields ((name, v) :: ms)) (w ++ x)
  | noMembers : Written (.members []) []
  | members {name v ms w x} : Written (.member name v) w → Written (.members ms) x →
      Written (.members ((name, v) :: ms)) (',' :: w ++ x)

/-! ## Runs of characters of a kind -/

/-- A run of characters of a kind ends with the last of them. -/
theorem run_unique {p : Char → Bool} {u u' r r' : List Char} (hu : ∀ c ∈ u, p c = true)
    (hu' : ∀ c ∈ u', p c = true) (hr : ∀ c ∈ r.head?, p c = false)
    (hr' : ∀ c ∈ r'.head?, p c = false) (heq : u ++ r = u' ++ r') : u = u' ∧ r = r' := by
  have hrun : u = u' := by
    rw [← Source.takeWhile_append_of_head? hu hr, heq, Source.takeWhile_append_of_head? hu' hr']
  subst hrun
  exact ⟨rfl, List.append_cancel_left heq⟩

def isNumberPart (c : Char) : Bool :=
  c.isDigit || c = '-' || c = '+' || c = '.' || c = 'e' || c = 'E'

theorem isNumberPart_of_isDigit {c : Char} (h : c.isDigit = true) : isNumberPart c = true := by
  simp [isNumberPart, h]

theorem IsNumber.ne_nil {w : List Char} (h : IsNumber w) : w ≠ [] := by
  obtain ⟨-, ⟨⟨hwhole, -⟩, -⟩, -, -⟩ := h
  simp [hwhole]

theorem IsNumber.isNumberPart {w : List Char} (h : IsNumber w) :
    ∀ c ∈ w, isNumberPart c = true := by
  obtain ⟨hsign, ⟨⟨-, hwhole⟩, -⟩, hfraction, hexponent⟩ := h
  intro c hc
  simp only [List.mem_append] at hc
  rcases hc with ((hc | hc) | hc) | hc
  · rcases hsign with rfl | rfl
    · cases hc
    · rw [List.mem_singleton.mp hc]
      rfl
  · exact isNumberPart_of_isDigit (hwhole c hc)
  · rcases hfraction with rfl | ⟨digits, ⟨-, hdigits⟩, rfl⟩
    · cases hc
    · rcases List.mem_cons.mp hc with rfl | hc
      · rfl
      · exact isNumberPart_of_isDigit (hdigits c hc)
  · rcases hexponent with rfl | ⟨e, sign, digits, he, hsign, ⟨-, hdigits⟩, rfl⟩
    · cases hc
    · simp only [List.cons_append, List.mem_cons, List.mem_append] at hc
      rcases hc with rfl | hc | hc
      · rcases he with rfl | rfl <;> rfl
      · rcases hsign with rfl | rfl | rfl
        · cases hc
        · rw [List.mem_singleton.mp hc]
          rfl
        · rw [List.mem_singleton.mp hc]
          rfl
      · exact isNumberPart_of_isDigit (hdigits c hc)

/-! ## Strings -/

theorem Content.unique {ns ns' : List Nat} {w w' r r' : List Char} (h : Content ns w)
    (h' : Content ns' w') (heq : w ++ '"' :: r = w' ++ '"' :: r') : ns = ns' ∧ w = w' := by
  induction h generalizing ns' w' with
  | nil =>
    cases h' with
    | nil => exact ⟨rfl, rfl⟩
    | plain _ hquote => exact absurd (List.cons.inj heq).1.symm hquote
    | escape => cases (List.cons.inj heq).1
    | hex => cases (List.cons.inj heq).1
  | plain hc hquote hslash _ ih =>
    cases h' with
    | nil => exact absurd (List.cons.inj heq).1 hquote
    | plain _ _ _ h' =>
      obtain ⟨rfl, hrest⟩ := List.cons.inj heq
      obtain ⟨rfl, rfl⟩ := ih h' hrest
      exact ⟨rfl, rfl⟩
    | escape => exact absurd (List.cons.inj heq).1 hslash
    | hex => exact absurd (List.cons.inj heq).1 hslash
  | escape he _ ih =>
    cases h' with
    | nil => cases (List.cons.inj heq).1
    | plain _ _ hslash => exact absurd (List.cons.inj heq).1.symm hslash
    | escape he' h' =>
      obtain ⟨rfl, hrest⟩ := List.cons.inj (List.cons.inj heq).2
      obtain ⟨rfl, rfl⟩ := ih h' hrest
      rw [he] at he'
      cases he'
      exact ⟨rfl, rfl⟩
    | hex =>
      obtain ⟨rfl, -⟩ := List.cons.inj (List.cons.inj heq).2
      cases he
  | hex hlength _ _ ih =>
    cases h' with
    | nil => cases (List.cons.inj heq).1
    | plain _ _ hslash => exact absurd (List.cons.inj heq).1.symm hslash
    | escape he' =>
      obtain ⟨rfl, -⟩ := List.cons.inj (List.cons.inj heq).2
      cases he'
    | hex hlength' _ h' =>
      simp only [List.cons_append, List.append_assoc, List.cons.injEq, true_and] at heq
      obtain ⟨rfl, hrest⟩ := List.append_inj heq (hlength.trans hlength'.symm)
      obtain ⟨rfl, rfl⟩ := ih h' hrest
      exact ⟨rfl, rfl⟩

theorem IsString.unique {s s' : String} {w w' r r' : List Char} (h : IsString s w)
    (h' : IsString s' w') (heq : w ++ r = w' ++ r') : s = s' ∧ w = w' := by
  obtain ⟨hcontent⟩ := h
  obtain ⟨hcontent'⟩ := h'
  simp only [List.cons_append, List.append_assoc, List.cons.injEq, true_and] at heq
  obtain ⟨rfl, rfl⟩ := hcontent.unique hcontent' heq
  exact ⟨rfl, rfl⟩

theorem Content.le_toNat {ns : List Nat} {w : List Char} (h : Content ns w) :
    ∀ c ∈ w, 32 ≤ c.toNat := by
  induction h with
  | nil => exact List.forall_mem_nil _
  | plain hc _ _ _ ih => exact List.forall_mem_cons.mpr ⟨hc, ih⟩
  | @escape e n ns w he _ ih =>
    have hescaped : 32 ≤ e.toNat := by
      unfold Document.Json.escaped? at he
      split at he <;> first | decide | cases he
    exact List.forall_mem_cons.mpr ⟨by decide, List.forall_mem_cons.mpr ⟨hescaped, ih⟩⟩
  | @hex digits ns w _ hdigits _ ih =>
    have hdigit : ∀ d ∈ digits, 32 ≤ d.toNat :=
      fun d hd => Text.le_toNat_of_isHexDigit (hdigits d hd)
    simp only [List.forall_mem_cons, List.forall_mem_append]
    exact ⟨by decide, by decide, hdigit, ih⟩

/-- No character of a text in quotes is a control character. -/
theorem IsString.le_toNat {s : String} {w : List Char} (h : IsString s w) :
    ∀ c ∈ w, 32 ≤ c.toNat := by
  obtain ⟨hcontent⟩ := h
  rw [List.cons_append, List.forall_mem_cons, List.forall_mem_append, List.forall_mem_singleton]
  exact ⟨by decide, hcontent.le_toNat, by decide⟩

/-- A character as it is quoted stands for itself. -/
theorem Content.escape_append (c : Char) {ns : List Nat} {w : List Char} (h : Content ns w) :
    Content (c.toNat :: ns) (Text.escape c ++ w) := by
  unfold Text.escape
  split
  · exact .escape rfl h
  · exact .escape rfl h
  · exact .escape rfl h
  · exact .escape rfl h
  · exact .escape rfl h
  · exact .escape rfl h
  · exact .escape rfl h
  · next hquote hslash _ _ _ _ _ =>
    split_ifs with hcontrol
    · have hdigits : ∀ d ∈ Text.hexDigits 4 c.toNat, Text.isHexDigit d = true := by
        intro d hd
        exact Text.isHexDigit_of_mem_hexDigits hd
      have hcontent := Content.hex (Text.length_hexDigits 4 c.toNat) hdigits h
      rwa [Text.hexValue_hexDigits (by omega)] at hcontent
    · exact .plain (by omega) hquote hslash h

theorem content_flatMap_escape (cs : List Char) :
    Content (cs.map Char.toNat) (cs.flatMap Text.escape) := by
  induction cs with
  | nil => exact .nil
  | cons c cs ih => exact .escape_append c ih

theorem isString_quote (s : String) : IsString s (Text.quote s.toList) := by
  have hstring := IsString.mk (content_flatMap_escape s.toList)
  rwa [Text.joinPairs_map_toNat, Text.hold_map_toNat, String.ofList_toList] at hstring

/-! ## Where parts begin and end -/

def opens (c : Char) : Bool :=
  isNumberPart c || c = '"' || c = 'n' || c = 't' || c = 'f' || c = '[' || c = '\x7b'

theorem Atom.exists_cons {v : Json} {w : List Char} (h : Atom v w) :
    ∃ c r, w = c :: r ∧ opens c = true ∧ c ≠ '[' ∧ c ≠ '\x7b' := by
  cases h with
  | null => exact ⟨_, _, rfl, by decide⟩
  | @bool b => cases b <;> exact ⟨_, _, rfl, by decide⟩
  | number hw =>
    obtain ⟨c, r, rfl⟩ := List.exists_cons_of_ne_nil hw.ne_nil
    have hc := hw.isNumberPart c List.mem_cons_self
    refine ⟨c, r, rfl, by simp [opens, hc], ?_, ?_⟩
    · rintro rfl
      cases hc
    · rintro rfl
      cases hc
  | string hw =>
    obtain ⟨-⟩ := hw
    exact ⟨_, _, rfl, by decide⟩

theorem Written.exists_cons {v : Json} {w : List Char} (h : Written (.value v) w) :
    ∃ c r, w = c :: r ∧ opens c = true := by
  cases h with
  | atom h =>
    obtain ⟨c, r, rfl, hc, -⟩ := h.exists_cons
    exact ⟨c, r, rfl, hc⟩
  | array => exact ⟨_, _, rfl, rfl⟩
  | object => exact ⟨_, _, rfl, rfl⟩

def Part.follows : Part → Char → Bool
  | .value _, c => !isNumberPart c
  | .element _, c | .member _ _, c => c = ',' || c = ']' || c = '\x7d'
  | _, c => c = ']' || c = '\x7d'

/-- The text after a part, if any, begins with a character that can follow it. -/
def Part.EndsBefore (x : Part) (r : List Char) : Prop := ∀ c ∈ r.head?, x.follows c = true

/-- A text begins with a value, but for blanks. -/
def Begins (w : List Char) : Prop := ∃ u c r, w = u ++ c :: r ∧ IsBlank u ∧ opens c = true

theorem Written.begins_element {v : Json} {w : List Char} (h : Written (.element v) w) :
    Begins w := by
  obtain _ | _ | _ | ⟨hu, hw, -⟩ := h
  obtain ⟨c, r, rfl, hc⟩ := hw.exists_cons
  exact ⟨_, c, _, by rw [List.append_assoc, List.cons_append], hu, hc⟩

theorem Written.begins_member {name : String} {v : Json} {w : List Char}
    (h : Written (.member name v) w) : Begins w := by
  cases h with
  | @member _ u _ _ x y hu hname =>
    obtain @⟨ns, content, -⟩ := hname
    exact ⟨u, '"', content ++ ['"'] ++ x ++ ':' :: y, by simp, hu, rfl⟩

theorem isBlank_eq_false_of_opens {c : Char} (h : opens c = true) :
    Document.Json.isBlank c = false := by
  cases hblank : Document.Json.isBlank c with
  | false => rfl
  | true =>
    simp only [Document.Json.isBlank, Bool.or_eq_true, decide_eq_true_eq] at hblank
    rcases hblank with ((rfl | rfl) | rfl) | rfl <;> cases h

theorem isNumberPart_eq_false_of_isBlank {c : Char} (h : Document.Json.isBlank c = true) :
    isNumberPart c = false := by
  simp only [Document.Json.isBlank, Bool.or_eq_true, decide_eq_true_eq] at h
  rcases h with ((rfl | rfl) | rfl) | rfl <;> rfl

theorem isBlank_eq_false_of_head {c : Char} (hc : Document.Json.isBlank c = false) (w : List Char) :
    ∀ d ∈ (c :: w).head?, Document.Json.isBlank d = false := by
  rintro d ⟨⟩
  exact hc

theorem IsString.isBlank_eq_false {s : String} {w : List Char} (h : IsString s w)
    (t : List Char) : ∀ c ∈ (w ++ t).head?, Document.Json.isBlank c = false := by
  obtain ⟨-⟩ := h
  exact isBlank_eq_false_of_head rfl _

theorem Written.isBlank_eq_false {v : Json} {w : List Char} (h : Written (.value v) w)
    (t : List Char) : ∀ c ∈ (w ++ t).head?, Document.Json.isBlank c = false := by
  obtain ⟨c, w, rfl, hc⟩ := h.exists_cons
  exact isBlank_eq_false_of_head (isBlank_eq_false_of_opens hc) _

/-- Blanks before a closing character are not the beginning of a value. -/
theorem Begins.append_ne {u r w t : List Char} (h : Begins w) (hu : IsBlank u)
    (hr : ∀ c ∈ r.head?, (c = ']' || c = '\x7d') = true) : u ++ r ≠ w ++ t := by
  obtain ⟨u', c, w, rfl, hu', hc⟩ := h
  intro heq
  rw [List.append_assoc, List.cons_append] at heq
  have hclose : ∀ d ∈ r.head?, Document.Json.isBlank d = false := by
    intro d hd
    have hd := hr d hd
    simp only [Bool.or_eq_true, decide_eq_true_eq] at hd
    rcases hd with rfl | rfl <;> rfl
  obtain ⟨-, rfl⟩ := run_unique hu hu' hclose
    (isBlank_eq_false_of_head (isBlank_eq_false_of_opens hc) _) heq
  have hclose := hr c rfl
  simp only [Bool.or_eq_true, decide_eq_true_eq] at hclose
  rcases hclose with rfl | rfl <;> cases hc

theorem Part.EndsBefore.isNumberPart_eq_false {v : Json} {r : List Char}
    (h : (Part.value v).EndsBefore r) : ∀ c ∈ r.head?, isNumberPart c = false := by
  intro c hc
  have hc := h c hc
  rwa [Part.follows, Bool.not_eq_true'] at hc

theorem Part.EndsBefore.isBlank_eq_false {v : Json} {r : List Char}
    (h : (Part.element v).EndsBefore r) : ∀ c ∈ r.head?, Document.Json.isBlank c = false := by
  intro c hc
  have hc := h c hc
  simp only [Part.follows, Bool.or_eq_true, decide_eq_true_eq] at hc
  rcases hc with (rfl | rfl) | rfl <;> rfl

/-- A value ends before the blanks after it. -/
theorem endsBefore_value {v : Json} {x r : List Char} (hx : IsBlank x)
    (hr : (Part.element v).EndsBefore r) : (Part.value v).EndsBefore (x ++ r) := by
  intro c hc
  have hpart : isNumberPart c = false := by
    cases x with
    | nil =>
      have hc := hr c hc
      simp only [Part.follows, Bool.or_eq_true, decide_eq_true_eq] at hc
      rcases hc with (rfl | rfl) | rfl <;> rfl
    | cons d x =>
      cases hc
      exact isNumberPart_eq_false_of_isBlank (hx _ List.mem_cons_self)
  simp [Part.follows, hpart]

/-- An element ends before a comma and before a closing character. -/
theorem endsBefore_element {v : Json} {x r : List Char} (hx : x = [] ∨ x.head? = some ',')
    (hr : ∀ c ∈ r.head?, (c = ']' || c = '\x7d') = true) :
    (Part.element v).EndsBefore (x ++ r) := by
  intro c hc
  rcases hx with rfl | hx
  · have hc := hr c hc
    simp only [Part.follows, Bool.or_eq_true, decide_eq_true_eq] at hc ⊢
    rcases hc with hc | hc <;> simp [hc]
  · rw [List.head?_append, hx] at hc
    cases hc
    rfl

theorem endsBefore_member {name : String} {v : Json} {x r : List Char}
    (hx : x = [] ∨ x.head? = some ',') (hr : ∀ c ∈ r.head?, (c = ']' || c = '\x7d') = true) :
    (Part.member name v).EndsBefore (x ++ r) :=
  endsBefore_element (v := v) hx hr

theorem Written.items_begin {vs : List Json} {w : List Char} (h : Written (.items vs) w) :
    w = [] ∨ w.head? = some ',' := by
  cases h with
  | noItems => exact .inl rfl
  | items => exact .inr rfl

theorem Written.members_begin {ms : List (String × Json)} {w : List Char}
    (h : Written (.members ms) w) : w = [] ∨ w.head? = some ',' := by
  cases h with
  | noMembers => exact .inl rfl
  | members => exact .inr rfl

/-! ## A text has at most one value -/

theorem Atom.unique {v v' : Json} {w w' r r' : List Char} (h : Atom v w) (h' : Atom v' w')
    (hr : (Part.value v).EndsBefore r) (hr' : (Part.value v').EndsBefore r')
    (heq : w ++ r = w' ++ r') : v = v' ∧ w = w' := by
  -- only a number begins with a character that numbers can hold
  have hnumber {a b x y : List Char} {c : Char} (ha : IsNumber a) (hc : isNumberPart c = false) :
      a ++ x ≠ c :: b ++ y := by
    intro heq
    obtain ⟨d, a, rfl⟩ := List.exists_cons_of_ne_nil ha.ne_nil
    obtain ⟨rfl, -⟩ := List.cons.inj heq
    rw [ha.isNumberPart d List.mem_cons_self] at hc
    cases hc
  cases h with
  | null =>
    cases h' with
    | null => exact ⟨rfl, rfl⟩
    | @bool b => cases b <;> cases (List.cons.inj heq).1
    | number hw' => exact absurd heq.symm (hnumber hw' rfl)
    | string hw' =>
      obtain ⟨-⟩ := hw'
      cases (List.cons.inj heq).1
  | @bool b =>
    cases h' with
    | null => cases b <;> cases (List.cons.inj heq).1
    | @bool b' =>
      cases b <;> cases b' <;> first | exact ⟨rfl, rfl⟩ | cases (List.cons.inj heq).1
    | number hw' => cases b <;> exact absurd heq.symm (hnumber hw' rfl)
    | string hw' =>
      obtain ⟨-⟩ := hw'
      cases b <;> cases (List.cons.inj heq).1
  | number hw =>
    cases h' with
    | null => exact absurd heq (hnumber hw rfl)
    | @bool b => cases b <;> exact absurd heq (hnumber hw rfl)
    | number hw' =>
      obtain ⟨rfl, -⟩ := run_unique hw.isNumberPart hw'.isNumberPart hr.isNumberPart_eq_false
        hr'.isNumberPart_eq_false heq
      exact ⟨rfl, rfl⟩
    | string hw' =>
      obtain ⟨-⟩ := hw'
      exact absurd heq (hnumber hw rfl)
  | string hw =>
    cases h' with
    | null =>
      obtain ⟨-⟩ := hw
      cases (List.cons.inj heq).1
    | @bool b =>
      obtain ⟨-⟩ := hw
      cases b <;> cases (List.cons.inj heq).1
    | number hw' =>
      obtain ⟨-⟩ := hw
      exact absurd heq.symm (hnumber hw' rfl)
    | string hw' =>
      obtain ⟨rfl, rfl⟩ := hw.unique hw' heq
      exact ⟨rfl, rfl⟩

/-- A comma is not a closing character. -/
theorem ne_comma_append {r w r' : List Char} (hr : ∀ c ∈ r.head?, (c = ']' || c = '\x7d') = true) :
    [] ++ r ≠ ',' :: w ++ r' := by
  rintro rfl
  cases hr ',' rfl

/-- Blanks before a closing character end there. -/
theorem blanks_unique {u u' r r' : List Char} (hu : IsBlank u) (hu' : IsBlank u')
    (hr : ∀ c ∈ r.head?, (c = ']' || c = '\x7d') = true)
    (hr' : ∀ c ∈ r'.head?, (c = ']' || c = '\x7d') = true) (heq : u ++ r = u' ++ r') : u = u' := by
  have hend := (endsBefore_element (v := null) (.inl rfl) hr).isBlank_eq_false
  have hend' := (endsBefore_element (v := null) (.inl rfl) hr').isBlank_eq_false
  exact (run_unique hu hu' hend hend' heq).1

/-- No other part of the same kind is written at the front of the same text. -/
def Part.Determined (x : Part) (w : List Char) : Prop :=
  ∀ ⦃x' w' r r'⦄, Written x' w' → x.ctorIdx = x'.ctorIdx → x.EndsBefore r → x'.EndsBefore r' →
    w ++ r = w' ++ r' → x = x' ∧ w = w'

namespace Part.Determined

variable {v : Json} {vs : List Json} {name : String} {ms : List (String × Json)}
  {u w t : List Char}

/-- A part followed by a row: the part is determined first, and then the row. -/
theorem append {x x' y y' : Part} {w' t' r r' : List Char} (hx : x.Determined w)
    (hy : y.Determined t) (hw : Written x' w') (ht : Written y' t')
    (hkind : x.ctorIdx = x'.ctorIdx ∧ y.ctorIdx = y'.ctorIdx) (hpart : x.EndsBefore (t ++ r))
    (hpart' : x'.EndsBefore (t' ++ r')) (hrow : y.EndsBefore r) (hrow' : y'.EndsBefore r')
    (heq : w ++ t ++ r = w' ++ t' ++ r') : (x = x' ∧ y = y') ∧ w ++ t = w' ++ t' := by
  rw [List.append_assoc, List.append_assoc] at heq
  obtain ⟨rfl, rfl⟩ := hx hw hkind.1 hpart hpart' heq
  obtain ⟨rfl, rfl⟩ := hy ht hkind.2 hrow hrow' (List.append_cancel_left heq)
  exact ⟨⟨rfl, rfl⟩, rfl⟩

theorem atom (h : Atom v w) : (Part.value v).Determined w := by
  intro x' w' r r' h' hkind hr hr' heq
  cases h' with
  | atom h' =>
    obtain ⟨rfl, rfl⟩ := h.unique h' hr hr' heq
    exact ⟨rfl, rfl⟩
  | array =>
    obtain ⟨c, t, rfl, -, hc, -⟩ := h.exists_cons
    exact absurd (List.cons.inj heq).1 hc
  | object =>
    obtain ⟨c, t, rfl, -, -, hc⟩ := h.exists_cons
    exact absurd (List.cons.inj heq).1 hc
  | _ => cases hkind

theorem array (ih : (Part.elements vs).Determined w) :
    (Part.value (.array vs)).Determined ('[' :: w ++ [']']) := by
  intro x' w' r r' h' hkind hr hr' heq
  cases h' with
  | atom h' =>
    obtain ⟨c, t, rfl, -, hc, -⟩ := h'.exists_cons
    exact absurd (List.cons.inj heq).1.symm hc
  | array h' =>
    simp only [List.cons_append, List.append_assoc, List.cons.injEq, true_and] at heq
    obtain ⟨hpart, rfl⟩ := ih h' rfl (by rintro c ⟨⟩; rfl) (by rintro c ⟨⟩; rfl) heq
    cases hpart
    exact ⟨rfl, rfl⟩
  | object => cases (List.cons.inj heq).1
  | _ => cases hkind

theorem object (ih : (Part.fields ms).Determined w) :
    (Part.value (.object ms)).Determined ('\x7b' :: w ++ ['\x7d']) := by
  intro x' w' r r' h' hkind hr hr' heq
  cases h' with
  | atom h' =>
    obtain ⟨c, t, rfl, -, -, hc⟩ := h'.exists_cons
    exact absurd (List.cons.inj heq).1.symm hc
  | array => cases (List.cons.inj heq).1
  | object h' =>
    simp only [List.cons_append, List.append_assoc, List.cons.injEq, true_and] at heq
    obtain ⟨hpart, rfl⟩ := ih h' rfl (by rintro c ⟨⟩; rfl) (by rintro c ⟨⟩; rfl) heq
    cases hpart
    exact ⟨rfl, rfl⟩
  | _ => cases hkind

theorem element (hu : IsBlank u) (hw : Written (.value v) w) (ht : IsBlank t)
    (ih : (Part.value v).Determined w) : (Part.element v).Determined (u ++ w ++ t) := by
  intro x' w' r r' h' hkind hr hr' heq
  cases h' with
  | element hu' hw' ht' =>
    simp only [List.append_assoc] at heq
    obtain ⟨rfl, hrest⟩ := run_unique hu hu' (hw.isBlank_eq_false _) (hw'.isBlank_eq_false _) heq
    obtain ⟨hpart, rfl⟩ := ih hw' rfl (endsBefore_value ht hr) (endsBefore_value ht' hr') hrest
    cases hpart
    obtain ⟨rfl, -⟩ := run_unique ht ht' hr.isBlank_eq_false hr'.isBlank_eq_false
      (List.append_cancel_left hrest)
    exact ⟨rfl, rfl⟩
  | _ => cases hkind

theorem member (hu : IsBlank u) (hname : IsString name w) (ht : IsBlank t) {y : List Char}
    (ih : (Part.element v).Determined y) :
    (Part.member name v).Determined (u ++ w ++ t ++ ':' :: y) := by
  intro x' w' r r' h' hkind hr hr' heq
  cases h' with
  | member hu' hname' ht' hy' =>
    simp only [List.append_assoc, List.cons_append] at heq
    obtain ⟨rfl, hrest⟩ := run_unique hu hu' (hname.isBlank_eq_false _)
      (hname'.isBlank_eq_false _) heq
    obtain ⟨rfl, rfl⟩ := hname.unique hname' hrest
    obtain ⟨rfl, hcolons⟩ := run_unique ht ht' (isBlank_eq_false_of_head rfl _)
      (isBlank_eq_false_of_head rfl _) (List.append_cancel_left hrest)
    obtain ⟨hpart, rfl⟩ := ih hy' rfl hr hr' (List.cons.inj hcolons).2
    cases hpart
    exact ⟨rfl, rfl⟩
  | _ => cases hkind

/-! ### Rows -/

theorem noElements (hu : IsBlank u) : (Part.elements []).Determined u := by
  intro x' w' r r' h' hkind hr hr' heq
  cases h' with
  | noElements hu' =>
    obtain rfl := blanks_unique hu hu' hr hr' heq
    exact ⟨rfl, rfl⟩
  | elements hw' _ =>
    rw [List.append_assoc] at heq
    exact absurd heq (hw'.begins_element.append_ne hu hr)
  | _ => cases hkind

theorem elements (hw : Written (.element v) w) (ht : Written (.items vs) t)
    (ihw : (Part.element v).Determined w) (iht : (Part.items vs).Determined t) :
    (Part.elements (v :: vs)).Determined (w ++ t) := by
  intro x' w' r r' h' hkind hr hr' heq
  cases h' with
  | noElements hu' =>
    rw [List.append_assoc] at heq
    exact absurd heq.symm (hw.begins_element.append_ne hu' hr')
  | elements hw' ht' =>
    obtain ⟨⟨hpart, hrow⟩, htext⟩ := ihw.append iht hw' ht' ⟨rfl, rfl⟩
      (endsBefore_element ht.items_begin hr) (endsBefore_element ht'.items_begin hr') hr hr' heq
    cases hpart
    cases hrow
    exact ⟨rfl, htext⟩
  | _ => cases hkind

theorem noItems : (Part.items []).Determined [] := by
  intro x' w' r r' h' hkind hr hr' heq
  cases h' with
  | noItems => exact ⟨rfl, rfl⟩
  | items => exact absurd heq (ne_comma_append hr)
  | _ => cases hkind

theorem items (ht : Written (.items vs) t) (ihw : (Part.element v).Determined w)
    (iht : (Part.items vs).Determined t) : (Part.items (v :: vs)).Determined (',' :: w ++ t) := by
  intro x' w' r r' h' hkind hr hr' heq
  cases h' with
  | noItems => exact absurd heq.symm (ne_comma_append hr')
  | items hw' ht' =>
    obtain ⟨⟨hpart, hrow⟩, htext⟩ := ihw.append iht hw' ht' ⟨rfl, rfl⟩
      (endsBefore_element ht.items_begin hr) (endsBefore_element ht'.items_begin hr') hr hr'
      (List.cons.inj heq).2
    cases hpart
    cases hrow
    exact ⟨rfl, congrArg _ htext⟩
  | _ => cases hkind

theorem noFields (hu : IsBlank u) : (Part.fields []).Determined u := by
  intro x' w' r r' h' hkind hr hr' heq
  cases h' with
  | noFields hu' =>
    obtain rfl := blanks_unique hu hu' hr hr' heq
    exact ⟨rfl, rfl⟩
  | fields hw' _ =>
    rw [List.append_assoc] at heq
    exact absurd heq (hw'.begins_member.append_ne hu hr)
  | _ => cases hkind

theorem fields (hw : Written (.member name v) w) (ht : Written (.members ms) t)
    (ihw : (Part.member name v).Determined w) (iht : (Part.members ms).Determined t) :
    (Part.fields ((name, v) :: ms)).Determined (w ++ t) := by
  intro x' w' r r' h' hkind hr hr' heq
  cases h' with
  | noFields hu' =>
    rw [List.append_assoc] at heq
    exact absurd heq.symm (hw.begins_member.append_ne hu' hr')
  | fields hw' ht' =>
    obtain ⟨⟨hpart, hrow⟩, htext⟩ := ihw.append iht hw' ht' ⟨rfl, rfl⟩
      (endsBefore_member ht.members_begin hr) (endsBefore_member ht'.members_begin hr') hr hr' heq
    cases hpart
    cases hrow
    exact ⟨rfl, htext⟩
  | _ => cases hkind

theorem noMembers : (Part.members []).Determined [] := by
  intro x' w' r r' h' hkind hr hr' heq
  cases h' with
  | noMembers => exact ⟨rfl, rfl⟩
  | members => exact absurd heq (ne_comma_append hr)
  | _ => cases hkind

theorem members (ht : Written (.members ms) t) (ihw : (Part.member name v).Determined w)
    (iht : (Part.members ms).Determined t) :
    (Part.members ((name, v) :: ms)).Determined (',' :: w ++ t) := by
  intro x' w' r r' h' hkind hr hr' heq
  cases h' with
  | noMembers => exact absurd heq.symm (ne_comma_append hr')
  | members hw' ht' =>
    obtain ⟨⟨hpart, hrow⟩, htext⟩ := ihw.append iht hw' ht' ⟨rfl, rfl⟩
      (endsBefore_member ht.members_begin hr) (endsBefore_member ht'.members_begin hr') hr hr'
      (List.cons.inj heq).2
    cases hpart
    cases hrow
    exact ⟨rfl, congrArg _ htext⟩
  | _ => cases hkind

end Part.Determined

/-- Two parts of one kind that begin in one text are the same. -/
theorem Written.determined {x : Part} {w : List Char} (h : Written x w) : x.Determined w := by
  induction h with
  | atom h => exact .atom h
  | array _ ih => exact .array ih
  | object _ ih => exact .object ih
  | element hu hw ht ih => exact .element hu hw ht ih
  | noElements hu => exact .noElements hu
  | elements hw ht ihw iht => exact .elements hw ht ihw iht
  | noItems => exact .noItems
  | items _ ht ihw iht => exact .items ht ihw iht
  | member hu hname ht _ ih => exact .member hu hname ht ih
  | noFields hu => exact .noFields hu
  | fields hw ht ihw iht => exact .fields hw ht ihw iht
  | noMembers => exact .noMembers
  | members _ ht ihw iht => exact .members ht ihw iht

/-- A text has at most one value. -/
theorem Written.value_unique {v v' : Json} {w : List Char} (h : Written (.element v) w)
    (h' : Written (.element v') w) : v = v' := by
  have hend {v : Json} : (Part.element v).EndsBefore [] := by
    intro c hc
    cases hc
  obtain ⟨hpart, -⟩ := h.determined h' rfl hend hend rfl
  cases hpart
  rfl

end Json

end SchemaGrammar
