import ServerLink.Proofs.Agreement

/-!
Which functions are a module's own. The registry's entry for the path of a module says what is
registered and what becomes a stub; without one the module's text is searched. What a search of the
text itself found is declared there, and no literal of it is left to a client.
-/

set_option autoImplicit false

namespace ServerLink

open Script Text

/-! ### What a search finds -/

/-- The variable declares the name, and its value is the marker called with the literal. -/
def IsMarked (o : Options) (m : Module) (d : Node) (name : String) (g : Node) : Prop :=
  ∃ value, namedValue? d = some (name, d, value) ∧
    m.imports.isCallOf o.library.specifier o.library.marker value = true ∧ value.args = [g] ∧
    isFunctionLiteral g = true

theorem IsMarked.literal {o : Options} {m : Module} {d g : Node} {name : String}
    (marked : IsMarked o m d name g) {own : FunctionMap} {f : ServerFunction} (member : f ∈ own.values)
    (same : f.localName = name) :
    declaratorNames [d] = [name] ∧ recordedLiteral? m.imports o.library own d = some g := by
  obtain ⟨value, named, called, given, literal⟩ := marked
  unfold namedValue? at named
  split at named
  · rename_i place written outer under ps value' more
    obtain ⟨rfl, rfl⟩ : written = name ∧ value' = value := by simpa using named
    have known : own.values.any (·.localName == written) = true := by
      apply List.any_eq_true.2
      exact ⟨f, member, by simp [same]⟩
    constructor
    · simp [declaratorNames, Node.declaredNames]
    · simp [recordedLiteral?, called, known, given, literal]
  · simp at named

theorem variable_of_candidate {o : Options} {m : Module} {declaration : Node} {c : Candidate}
    (found : c ∈ markedCandidates o m declaration) :
    ∃ hoisted span ds, declaration = .mk (.variables hoisted) span ds ∧
      ∃ d ∈ ds, ∃ g, IsMarked o m d c.name g := by
  obtain ⟨⟨name, d, value⟩, named, found⟩ := List.mem_filterMap.1 found
  unfold namedValues at named
  split at named
  · rename_i hoisted span ds
    obtain ⟨d', member, split⟩ := List.mem_filterMap.1 named
    have itself : d' = d := by
      unfold namedValue? at split
      split at split
      · exact (Prod.mk.inj (Prod.mk.inj (Option.some.inj split)).2).1
      · simp at split
    subst itself
    simp only at found
    split at found
    · rename_i called
      split at found
      · rename_i g given
        split at found
        · rename_i literal
          obtain rfl := Option.some.inj found
          exact ⟨hoisted, span, ds, rfl, d', member, g, value, split, called, given, literal⟩
        · simp at found
      · simp at found
    · simp at found
  · simp at named

end ServerLink
