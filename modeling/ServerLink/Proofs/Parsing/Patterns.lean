import ServerLink.Proofs.Parsing.Cursors
import ServerLink.Script.Pattern

/-!
A pattern that an expression spells stands where the expression does.
-/

set_option autoImplicit false

namespace ServerLink.Script

open Text

/-- The pattern stands in the expression that spells it. -/
structure SpelledBy (text : List Char) (role : PatternRole) (n q : Node) : Prop where
  placed : q.Placed text
  plain : q.kind.isPlain = true
  simple : role = .declare → q.kind.isSimple = true
  front : n.front ≤ q.front
  stop : q.stop ≤ n.stop

section

variable {text : List Char} {role : PatternRole}

theorem SpelledBy.self {n : Node} (placed : n.Placed text) (simple : n.kind.isSimple = true) :
    SpelledBy text role n n :=
  ⟨placed, Kind.isPlain_of_isSimple simple, fun _ => simple, Nat.le_refl _, Nat.le_refl _⟩

-- A place that is assigned to stays as it is.
theorem SpelledBy.target {n : Node} (placed : n.Placed text) (plain : n.kind.isPlain = true) :
    SpelledBy text .assign n n :=
  ⟨placed, plain, nofun, Nat.le_refl _, Nat.le_refl _⟩

-- A tree over the same text, with parts that stand in it as well.
theorem SpelledBy.relabel {k k' : Kind} {span : Span} {ps qs : List Node}
    (placed : (Node.mk k span ps).Placed text) (plain : k.isPlain = true) (simple : k'.isSimple = true)
    (inside : PlacedFrom text span.start span.stop ps → PlacedFrom text span.start span.stop qs) :
    SpelledBy text role (.mk k span ps) (.mk k' span qs) := by
  have plain' := Kind.isPlain_of_isSimple simple
  have front (k : Kind) (ps : List Node) (plain : k.isPlain = true) :
      (Node.mk k span ps).front = span.start :=
    Node.front_eq_start (Kind.isDecorated_of_isPlain plain)
  obtain ⟨solid, first, last, -, parts⟩ := placed
  rw [Kind.room_of_isPlain plain] at parts
  refine ⟨⟨solid, first, last, Kind.admits_of_isSimple simple qs, ?_⟩, plain', fun _ => simple, ?_,
    Nat.le_refl _⟩
  · rw [Kind.room_of_isPlain plain']
    exact inside parts
  · exact Nat.le_of_eq ((front k ps plain).trans (front k' qs plain').symm)

theorem Node.isPlain_of_isPlace {n : Node} (place : n.isPlace = true) : n.kind.isPlain = true := by
  unfold Node.isPlace at place
  split at place <;> first | rfl | simp at place

-- The same with parts that are read from the parts.
theorem SpelledBy.read {k k' : Kind} {span : Span} {ps : List Node} {q : Node}
    {f : List Node → Option (List Node)} (placed : (Node.mk k span ps).Placed text)
    (each : ∀ qs, f ps = some qs → PlacedFrom text span.start span.stop ps →
      PlacedFrom text span.start span.stop qs)
    (h : (f ps).map (.mk k' span) = some q) [plain : Holds k.isPlain] [simple : Holds k'.isSimple] :
    SpelledBy text role (.mk k span ps) q := by
  obtain ⟨qs, read, rfl⟩ := Option.map_eq_some_iff.1 h
  exact .relabel placed plain.eq simple.eq (each qs read)

mutual

theorem toPattern?_spelled (n : Node) {q : Node} (h : n.toPattern? role = some q)
    (placed : n.Placed text) : SpelledBy text role n q := by
  unfold Node.toPattern? at h
  split at h
  · split at h
    · simp at h
    · split at h
      · obtain rfl := Option.some.inj h
        exact .relabel placed rfl rfl id
      · obtain rfl := Option.some.inj h
        exact .target placed rfl
  · exact .read placed (fun qs read => toPatterns?_placed _ read) h
  · exact .read placed (fun qs read => toPatterns?_placed _ read) h
  · split at h
    · simp at h
    · exact .read placed (fun qs read => toPatterns?_placed _ read) h
  · split at h
    · simp at h
    · exact .read placed (fun qs read => toPatterns?_placed _ read) h
  · exact .read placed (fun qs read => toPatternLast?_placed _ read) h
  · exact .read placed (fun qs read => toPatternLast?_placed _ read) h
  · rename_i span p
    have within := placed.parts.bounds p (by simp)
    have spelled := toPattern?_spelled p h (placed.parts.placed p (by simp))
    exact ⟨spelled.placed, spelled.plain, spelled.simple, Nat.le_trans within.1 spelled.front,
      Nat.le_trans spelled.stop within.2⟩
  · exact .read placed (fun qs read => toPatternFirst?_placed _ read) h
  · exact .read placed (fun qs read => toPatternFirst?_placed _ read) h
  · split at h
    · exact .read placed (fun qs read => toPatternFirst?_placed _ read) h
    · simp at h
  · exact .read placed (fun qs read => toPatternFirst?_placed _ read) h
  · exact .read placed (fun qs read => toPatternFirst?_placed _ read) h
  iterate 3
    · obtain rfl := Option.some.inj h
      exact .self placed rfl
  · split at h
    · rename_i place
      obtain ⟨assigned, place⟩ := Bool.and_eq_true_iff.1 place
      obtain rfl := of_decide_eq_true assigned
      obtain rfl := Option.some.inj h
      exact .target placed (Node.isPlain_of_isPlace place)
    · simp at h
termination_by sizeOf n

theorem toPatterns?_placed : (ps : List Node) → {qs : List Node} → {lo hi : Nat} →
    toPatterns? role ps = some qs → PlacedFrom text lo hi ps → PlacedFrom text lo hi qs
  | [], qs, lo, hi, h, _ => by
    obtain rfl := Option.some.inj h
    trivial
  | p :: ps, qs, lo, hi, h, placed => by
    obtain ⟨first, here, inside, rest⟩ := placed
    simp only [toPatterns?, Option.bind_eq_bind, Option.bind_eq_some_iff] at h
    obtain ⟨q, head, qs', tail, h⟩ := h
    split at h
    · simp at h
    · obtain rfl := Option.some.inj h
      have spelled := toPattern?_spelled p head here
      refine ⟨Nat.le_trans first spelled.front, spelled.placed, Nat.le_trans spelled.stop inside, ?_⟩
      exact (toPatterns?_placed ps tail rest).mono spelled.stop (Nat.le_refl _)
termination_by ps => sizeOf ps

theorem toPatternFirst?_placed : (ps : List Node) → {qs : List Node} → {lo hi : Nat} →
    toPatternFirst? role ps = some qs → PlacedFrom text lo hi ps → PlacedFrom text lo hi qs
  | [], qs, lo, hi, h, _ => by simp [toPatternFirst?] at h
  | p :: ps, qs, lo, hi, h, placed => by
    obtain ⟨first, here, inside, rest⟩ := placed
    simp only [toPatternFirst?, Option.map_eq_some_iff] at h
    obtain ⟨q, head, rfl⟩ := h
    have spelled := toPattern?_spelled p head here
    exact ⟨Nat.le_trans first spelled.front, spelled.placed, Nat.le_trans spelled.stop inside,
      rest.mono spelled.stop (Nat.le_refl _)⟩
termination_by ps => sizeOf ps

theorem toPatternLast?_placed : (ps : List Node) → {qs : List Node} → {lo hi : Nat} →
    toPatternLast? role ps = some qs → PlacedFrom text lo hi ps → PlacedFrom text lo hi qs
  | [], qs, lo, hi, h, _ => by simp [toPatternLast?] at h
  | [p], qs, lo, hi, h, placed => by
    obtain ⟨first, here, inside, -⟩ := placed
    simp only [toPatternLast?, Option.map_eq_some_iff] at h
    obtain ⟨q, head, rfl⟩ := h
    have spelled := toPattern?_spelled p head here
    exact ⟨Nat.le_trans first spelled.front, spelled.placed, Nat.le_trans spelled.stop inside, trivial⟩
  | p :: p' :: ps, qs, lo, hi, h, placed => by
    obtain ⟨first, here, inside, rest⟩ := placed
    simp only [toPatternLast?, Option.map_eq_some_iff] at h
    obtain ⟨qs', tail, rfl⟩ := h
    exact ⟨first, here, inside, toPatternLast?_placed (p' :: ps) tail rest⟩
termination_by ps => sizeOf ps

end

end

end ServerLink.Script
