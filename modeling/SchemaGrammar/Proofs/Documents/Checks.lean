import Mathlib.Data.List.Forall2
import SchemaGrammar.Document.Schemas

/-!
# Checks that succeed

When a check succeeds and with which value: one statement for each way of building checks from
others. What is written field by field is read back field by field.
-/
namespace SchemaGrammar.Document

variable {α β : Type}

namespace Check

variable {c : Check α} {a : α} {b : β} {f : α → β}

@[simp] theorem under_eq_valid_iff {step : PathStep} :
    c.under step = .valid a ↔ c = .valid a := by
  cases c <;> simp [under]

@[simp] theorem map_eq_valid_iff : c.map f = .valid b ↔ ∃ a, c = .valid a ∧ f a = b := by
  cases c <;> simp [map]

@[simp] theorem app_eq_valid_iff {f : Check (α → β)} :
    f.app c = .valid b ↔ ∃ g, f = .valid g ∧ ∃ a, c = .valid a ∧ g a = b := by
  cases f <;> cases c <;> simp [app]

@[simp] theorem functor_map_eq (f : α → β) (c : Check α) : f <$> c = c.map f := rfl

@[simp] theorem seq_eq (f : Check (α → β)) (c : Check α) : f <*> c = f.app c := rfl

@[simp] theorem andThen_eq_valid_iff {next : α → Check β} :
    c.andThen next = .valid b ↔ ∃ a, c = .valid a ∧ next a = .valid b := by
  cases c <;> simp [andThen]

@[simp] theorem complain_ne_valid {m : Mismatch} : complain m ≠ .valid a := by
  simp [complain]

theorem toExcept_eq_ok_iff : c.toExcept = .ok a ↔ c = .valid a := by
  cases c <;> simp [toExcept]

end Check

/-! ## Fields -/

section Fields

variable {fields : List (String × Value)} {name other : String} {v : Value}
  {check : Value → Check α} {default : α}

@[simp] theorem required_cons_self :
    required ((name, v) :: fields) name check = (check v).under (.field name) := by
  simp [required, requiredWith, field?]

@[simp] theorem required_cons_of_ne (h : other ≠ name) :
    required ((other, v) :: fields) name check = required fields name check := by
  unfold required requiredWith
  rw [field?, if_neg h]
  cases field? name fields <;> rfl

@[simp] theorem optional_cons_self :
    optional ((name, v) :: fields) name default check = (check v).under (.field name) := by
  simp [optional, optionalWith, field?]

@[simp] theorem optional_cons_of_ne (h : other ≠ name) :
    optional ((other, v) :: fields) name default check = optional fields name default check := by
  unfold optional optionalWith
  rw [field?, if_neg h]
  cases field? name fields <;> rfl

end Fields

/-! ## Parts that are written -/

section Written

variable {check : Value → Check β} {write : α → Value}

theorem itemsFrom_map_eq_valid_iff (n : Nat) {as : List α} {bs : List β} :
    itemsFrom n (as.map write) (fun v _ => check v) = .valid bs ↔
      List.Forall₂ (fun a b => check (write a) = .valid b) as bs := by
  induction as generalizing n bs with
  | nil => rw [List.map_nil, itemsFrom, List.forall₂_nil_left_iff, Check.valid.injEq, eq_comm]
  | cons a as ih =>
    rw [List.map_cons, itemsFrom, List.forall₂_cons_left_iff]
    simp only [Check.app_eq_valid_iff, Check.map_eq_valid_iff, Check.under_eq_valid_iff, ih]
    constructor
    · rintro ⟨_, ⟨b, hb, rfl⟩, bs, hbs, rfl⟩
      exact ⟨b, bs, hb, hbs, rfl⟩
    · rintro ⟨b, bs, hb, hbs, rfl⟩
      exact ⟨_, ⟨b, hb, rfl⟩, bs, hbs, rfl⟩

@[simp] theorem items_map_eq_valid_iff {as : List α} {bs : List β} :
    items check (as.map write) = .valid bs ↔
      List.Forall₂ (fun a b => check (write a) = .valid b) as bs :=
  itemsFrom_map_eq_valid_iff 0

end Written

section Reread

variable {check : Value → Check α} {write : α → Value} (h : ∀ a, check (write a) = .valid a)
include h

/-- A list whose items are read back is read back. -/
theorem items_map (as : List α) : items check (as.map write) = .valid as := by
  rw [items_map_eq_valid_iff]
  exact List.forall₂_same.mpr fun a _ => h a

theorem nullable_ofOptional (hnull : ∀ a, write a ≠ .null) (o : Option α) :
    nullable check (ofOptional write o) = .valid o := by
  cases o with
  | none => rfl
  | some a =>
    rw [ofOptional, nullable, h a]
    · rfl
    · exact hnull a

end Reread

@[simp] theorem string_string (text : String) : string (.string text) = .valid text := rfl

@[simp] theorem items_strings (texts : List String) :
    items string (texts.map .string) = .valid texts :=
  items_map string_string texts

@[simp] theorem nullable_ofString (text : Option String) :
    nullable string (ofOptional .string text) = .valid text :=
  nullable_ofOptional string_string (fun _ => nofun) text

@[simp] theorem location_ofLocation (l : Location) : location (ofLocation l) = .valid l := by
  simp [location, ofLocation, fieldsOf, integer]

@[simp] theorem nullable_ofLocation (l : Option Location) :
    nullable location (ofOptional ofLocation l) = .valid l :=
  nullable_ofOptional location_ofLocation (fun _ => nofun) l

@[simp] theorem member_ofMember (m : Member) : member (ofMember m) = .valid m := by
  simp [member, ofMember, fieldsOf]

theorem enumeration_ofEnumeration (e : Enumeration) :
    enumeration (ofEnumeration e) = .valid e := by
  simp [enumeration, ofEnumeration, fieldsOf, literal, kindField, list, locationField,
    items_map member_ofMember]

theorem otherDeclaration_ofOtherDeclaration (o : OtherDeclaration) :
    otherDeclaration (ofOtherDeclaration o) = .valid o := by
  simp [otherDeclaration, ofOtherDeclaration, fieldsOf, literal, kindField, locationField]

end SchemaGrammar.Document
