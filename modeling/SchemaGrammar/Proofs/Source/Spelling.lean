import SchemaGrammar.Proofs.Source.Strings
import SchemaGrammar.Proofs.Source.Writing

/-!
# What written types spell

`Writes` says which lexemes characters spell in front of anything that does not go on with a word.
Parts of a text are put together under this relation; the canonical text of a type writes its
lexemes.
-/
namespace SchemaGrammar

namespace Source

/-! ## The lexemes of what is written -/

def argumentLexemes : List (List Lexeme) → List Lexeme
  | [] => []
  | ls :: lss =>
    .mark .openAngle :: ls ++ lss.flatMap (.mark .comma :: ·) ++ [.mark .closeAngle]

def pathLexemes (path : List Word) : List Lexeme :=
  path.flatMap fun name => [.mark .dot, .word name.text]

def bracketLexemes : Nat → List Lexeme
  | 0 => []
  | brackets + 1 => .mark .openBracket :: .mark .closeBracket :: bracketLexemes brackets

mutual

def TypeAtom.lexemes : TypeAtom → List Lexeme
  | .mk head path arguments brackets =>
    .word head.text :: (pathLexemes path ++
      (argumentLexemes (TypeUnion.lexemesOf arguments) ++ bracketLexemes brackets))

def TypeUnion.lexemes : TypeUnion → List Lexeme
  | .mk first others => first.lexemes ++ (TypeAtom.lexemesOf others).flatMap (.mark .bar :: ·)

def TypeAtom.lexemesOf : List TypeAtom → List (List Lexeme)
  | [] => []
  | a :: as => a.lexemes :: TypeAtom.lexemesOf as

def TypeUnion.lexemesOf : List TypeUnion → List (List Lexeme)
  | [] => []
  | t :: ts => t.lexemes :: TypeUnion.lexemesOf ts

end

/-! ## Writing in parts -/

/-- Characters that spell lexemes whatever follows, if it does not go on with a word. -/
def Writes (w : List Char) (ls : List Lexeme) : Prop :=
  ∀ cs ks, Stops cs → Spells cs ks → Spells (w ++ cs) (ls ++ ks)

theorem Stops.append {v w : List Char} (hv : Stops v) (hw : Stops w) : Stops (v ++ w) := by
  cases v with
  | nil => exact hw
  | cons c v => exact hv

theorem stops_nil : Stops [] := nofun

theorem stops_mark (m : Mark) (w : List Char) : Stops (m.char :: w) := by
  rintro c ⟨⟩
  cases m <;> rfl

theorem stops_space (w : List Char) : Stops (' ' :: w) := by
  rintro c ⟨⟩
  rfl

theorem stops_lineEnd (w : List Char) : Stops ('\n' :: w) := by
  rintro c ⟨⟩
  rfl

namespace Writes

variable {v w : List Char} {ls ks : List Lexeme}

theorem nil : Writes [] [] := fun _ _ _ h => h

theorem append (hv : Writes v ls) (hw : Writes w ks) (hstop : Stops w) :
    Writes (v ++ w) (ls ++ ks) := by
  intro cs js hcs h
  rw [List.append_assoc, List.append_assoc]
  exact hv _ _ (hstop.append hcs) (hw cs js hcs h)

/-- What follows a character that does not belong to a word may begin in any way. -/
theorem mark_append (m : Mark) (hw : Writes w ks) : Writes (m.char :: w) (.mark m :: ks) :=
  fun cs js hcs h => (hw cs js hcs h).mark m

theorem space_append (hw : Writes w ks) : Writes (' ' :: w) ks :=
  fun cs js hcs h => (hw cs js hcs h).space

theorem lineEnd_append (hw : Writes w ks) : Writes ('\n' :: w) ks :=
  fun cs js hcs h => (hw cs js hcs h).lineEnd

theorem quoted_append (value : String) (hw : Writes w ks) :
    Writes (Text.quote value.toList ++ w) (.text value :: ks) := by
  intro cs js hcs h
  rw [List.append_assoc]
  exact (hw cs js hcs h).quoted value

theorem word (name : Word) : Writes name.text.toList [.word name.text] :=
  fun _ _ hcs h => h.word name.isName hcs

theorem flatMap {α : Type} {f : α → List Char} {g : α → List Lexeme} {xs : List α}
    (h : ∀ x ∈ xs, Writes (f x) (g x)) (hstop : ∀ x ∈ xs, Stops (f x)) :
    Writes (xs.flatMap f) (xs.flatMap g) ∧ Stops (xs.flatMap f) := by
  induction xs with
  | nil => exact ⟨nil, stops_nil⟩
  | cons x xs ih =>
    rw [List.forall_mem_cons] at h hstop
    obtain ⟨hxs, hstops⟩ := ih h.2 hstop.2
    rw [List.flatMap_cons, List.flatMap_cons]
    exact ⟨h.1.append hxs hstops, hstop.1.append hstops⟩

end Writes

/-! ## Types -/

theorem toList_intercalate_cons (sep text : String) (texts : List String) :
    (sep.intercalate (text :: texts)).toList =
      text.toList ++ texts.flatMap fun t => sep.toList ++ t.toList := by
  induction texts generalizing text with
  | nil => simp
  | cons t ts ih =>
    rw [String.intercalate_cons_cons, String.toList_append, String.toList_append, ih,
      List.flatMap_cons]
    simp only [List.append_assoc]

theorem TypeAtom.texts_eq_map (as : List TypeAtom) : TypeAtom.texts as = as.map TypeAtom.text := by
  induction as with
  | nil => rfl
  | cons a as ih => rw [texts, ih, List.map_cons]

theorem TypeUnion.texts_eq_map (ts : List TypeUnion) :
    TypeUnion.texts ts = ts.map TypeUnion.text := by
  induction ts with
  | nil => rfl
  | cons t ts ih => rw [texts, ih, List.map_cons]

theorem TypeAtom.lexemesOf_eq_map (as : List TypeAtom) :
    TypeAtom.lexemesOf as = as.map TypeAtom.lexemes := by
  induction as with
  | nil => rfl
  | cons a as ih => rw [lexemesOf, ih, List.map_cons]

theorem TypeUnion.lexemesOf_eq_map (ts : List TypeUnion) :
    TypeUnion.lexemesOf ts = ts.map TypeUnion.lexemes := by
  induction ts with
  | nil => rfl
  | cons t ts ih => rw [lexemesOf, ih, List.map_cons]

/-- Texts after commas. -/
theorem writes_commas {α : Type} {f : α → String} {g : α → List Lexeme} {xs : List α}
    (h : ∀ x ∈ xs, Writes (f x).toList (g x)) :
    Writes ((xs.map f).flatMap fun t => ", ".toList ++ t.toList)
        ((xs.map g).flatMap (.mark .comma :: ·)) ∧
      Stops ((xs.map f).flatMap fun t => ", ".toList ++ t.toList) := by
  rw [List.flatMap_map, List.flatMap_map]
  refine Writes.flatMap (fun x hx => ?_) fun x _ => stops_mark .comma _
  exact (h x hx).space_append.mark_append .comma

theorem writes_arguments {α : Type} {f : α → String} {g : α → List Lexeme} {xs : List α}
    (h : ∀ x ∈ xs, Writes (f x).toList (g x)) :
    Writes (argumentsText (xs.map f)).toList (argumentLexemes (xs.map g)) ∧
      Stops (argumentsText (xs.map f)).toList := by
  cases xs with
  | nil => exact ⟨.nil, stops_nil⟩
  | cons x xs =>
    rw [List.forall_mem_cons] at h
    obtain ⟨hxs, hstops⟩ := writes_commas h.2
    have hclose : Writes [Mark.closeAngle.char] [.mark .closeAngle] := Writes.nil.mark_append _
    have hbody := (h.1.append hxs hstops).append hclose (stops_mark _ _)
    simp only [List.map_cons, argumentsText, String.toList_append, toList_intercalate_cons]
    exact ⟨hbody.mark_append .openAngle, stops_mark .openAngle _⟩

theorem writes_path (path : List Word) :
    Writes (String.join (path.map ("." ++ ·.text))).toList (pathLexemes path) ∧
      Stops (String.join (path.map ("." ++ ·.text))).toList := by
  rw [String.toList_join, List.flatMap_map]
  refine Writes.flatMap (fun name _ => ?_) fun name _ => ?_
  · rw [String.toList_append]
    exact (Writes.word name).mark_append .dot
  · rw [String.toList_append]
    exact stops_mark .dot _

theorem writes_brackets (brackets : Nat) :
    Writes (String.join (List.replicate brackets "[]")).toList (bracketLexemes brackets) ∧
      Stops (String.join (List.replicate brackets "[]")).toList := by
  induction brackets with
  | zero => exact ⟨.nil, stops_nil⟩
  | succ brackets ih =>
    rw [List.replicate_succ, String.join_cons, String.toList_append, bracketLexemes]
    exact ⟨(ih.1.mark_append .closeBracket).mark_append .openBracket, stops_mark .openBracket _⟩

mutual

theorem TypeAtom.writes : ∀ a : TypeAtom, Writes a.text.toList a.lexemes
  | .mk head path arguments brackets => by
    obtain ⟨hpath, hpathStops⟩ := writes_path path
    obtain ⟨harguments, hargumentsStops⟩ := writes_arguments (TypeUnion.writes_of_mem arguments)
    obtain ⟨hbrackets, hbracketsStops⟩ := writes_brackets brackets
    have hend := hpath.append (harguments.append hbrackets hbracketsStops)
      (hargumentsStops.append hbracketsStops)
    rw [TypeAtom.text, TypeAtom.lexemes, TypeUnion.texts_eq_map, TypeUnion.lexemesOf_eq_map]
    simp only [String.toList_append, List.append_assoc]
    exact (Writes.word head).append hend
      (hpathStops.append (hargumentsStops.append hbracketsStops))

theorem TypeUnion.writes : ∀ t : TypeUnion, Writes t.text.toList t.lexemes
  | .mk first others => by
    have hothers : Writes ((others.map TypeAtom.text).flatMap fun t => " | ".toList ++ t.toList)
          ((others.map TypeAtom.lexemes).flatMap (.mark .bar :: ·)) ∧
        Stops ((others.map TypeAtom.text).flatMap fun t => " | ".toList ++ t.toList) := by
      rw [List.flatMap_map, List.flatMap_map]
      refine Writes.flatMap (fun a ha => ?_) fun a _ => stops_space _
      exact ((TypeAtom.writes_of_mem others a ha).space_append.mark_append .bar).space_append
    rw [TypeUnion.text, TypeUnion.lexemes, TypeAtom.texts_eq_map, TypeAtom.lexemesOf_eq_map,
      toList_intercalate_cons]
    exact (TypeAtom.writes first).append hothers.1 hothers.2

theorem TypeAtom.writes_of_mem : ∀ as : List TypeAtom, ∀ a ∈ as, Writes a.text.toList a.lexemes
  | [], _, ha => nomatch ha
  | a :: _, _, .head _ => TypeAtom.writes a
  | _ :: as, b, .tail _ hb => TypeAtom.writes_of_mem as b hb

theorem TypeUnion.writes_of_mem : ∀ ts : List TypeUnion, ∀ t ∈ ts, Writes t.text.toList t.lexemes
  | [], _, ht => nomatch ht
  | t :: _, _, .head _ => TypeUnion.writes t
  | _ :: ts, u, .tail _ hu => TypeUnion.writes_of_mem ts u hu

end

end Source

end SchemaGrammar
