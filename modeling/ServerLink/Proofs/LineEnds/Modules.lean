import ServerLink.Discovery
import ServerLink.Proofs.Appending
import ServerLink.Proofs.LineEnds.Names
import ServerLink.Proofs.LineEnds.Scripts
import ServerLink.Proofs.Matching

/-!
Modules whose lines end in a carriage return and a line feed. They define the same functions under
the same identifiers as the modules whose lines end in a line feed alone.
-/

set_option autoImplicit false

namespace ServerLink

open Text Script

/-- The module of the text with carriage returns. -/
def Module.crlf (m : Module) : Module :=
  ⟨m.path, Text.crlf m.text, widen (withoutMark m.text) m.items⟩

variable (text : List Char)

/-! ### Imports -/

namespace Imports

theorem bindingOf_widen (source : String) (typeOnly : Bool) (n : Node) :
    (bindingOf source typeOnly (widen text n)).map Binding.unplaced =
      (bindingOf source typeOnly n).map Binding.unplaced := by
  obtain ⟨k, span, ps⟩ := n
  rw [widen_mk]
  cases k with
  | importSpec =>
    rcases ps with _ | ⟨⟨k, _, _⟩, _⟩
    · rfl
    · cases k <;> simp [bindingOf, Binding.unplaced]
  | _ => rfl

theorem bindingsOf_widen (n : Node) :
    (bindingsOf (widen text n)).map Binding.unplaced = (bindingsOf n).map Binding.unplaced := by
  obtain ⟨k, span, ps⟩ := n
  rw [widen_mk]
  cases k with
  | importDecl source typeOnly =>
    simp only [bindingsOf, List.map_filterMap]
    exact filterMap_widen text (bindingOf_widen text source typeOnly) ps
  | _ => rfl

theorem ofItems_widen (items : List Node) :
    (ofItems (widen text items)).unplaced = (ofItems items).unplaced := by
  have bindings := flatMap_widen text (g := fun n => (bindingsOf n).map Binding.unplaced)
    (bindingsOf_widen text) items
  simp only [ofItems, unplaced_foldl, List.map_flatMap, bindings]

theorem importsFrom_widen {is is' : Imports} (same : is'.unplaced = is.unplaced) (source : String) :
    is'.importsFrom source = is.importsFrom source := by
  rw [← importsFrom_unplaced, same, importsFrom_unplaced]

theorem export?_widen (is : Imports) (library : String) (n : Node) :
    is.export? library (widen text n) = is.export? library n := by
  obtain ⟨k, span, ps⟩ := n
  rw [widen_mk]
  cases k with
  | use name outer => cases outer <;> rfl
  | member =>
    rcases ps with _ | ⟨⟨k, _, _⟩, _⟩
    · rfl
    · cases k with
      | use name outer => cases outer <;> rfl
      | _ => rfl
  | _ => rfl

variable {is is' : Imports} (same : is'.unplaced = is.unplaced)

include same

theorem isCallOf_widen (library exported : String) (n : Node) :
    is'.isCallOf library exported (widen text n) = is.isCallOf library exported n := by
  have callee (n : Node) : is'.export? library (widen text n) = is.export? library n := by
    rw [export?_widen, ← export?_unplaced, same, export?_unplaced]
  obtain ⟨k, span, ps⟩ := n
  rw [widen_mk]
  cases k with
  | call => cases ps <;> simp [isCallOf, callee]
  | _ => rfl

theorem isTypeOf_widen (library exported : String) (n : Node) :
    is'.isTypeOf library exported (widen text n) = is.isTypeOf library exported n := by
  have bound (name : String) (imported : Imported) :
      ((is'.find? name).any fun b => b.source == library && b.imported == imported) =
        (is.find? name).any fun b => b.source == library && b.imported == imported := by
    have whole : (is'.find? name).map Binding.unplaced = (is.find? name).map Binding.unplaced := by
      rw [← find?_unplaced, same, find?_unplaced]
    have unplaced (o : Option Binding) :
        (o.map Binding.unplaced).any (fun b => b.source == library && b.imported == imported) =
          o.any fun b => b.source == library && b.imported == imported := by
      cases o <;> rfl
    rw [← unplaced, whole, unplaced]
  obtain ⟨k, span, ps⟩ := n
  rw [widen_mk]
  cases k with
  | typeRef =>
    rcases ps with _ | ⟨⟨k, span, qs⟩, ps⟩
    · rfl
    rw [widen_cons, widen_mk]
    cases k with
    | typeUse name outer => cases outer <;> simp [isTypeOf, bound]
    | qualified property =>
      rcases qs with _ | ⟨⟨k, _, _⟩, _⟩
      · rfl
      rw [widen_cons, widen_mk]
      cases k with
      | typeUse name outer => cases outer <;> simp [isTypeOf, bound]
      | _ => rfl
    | _ => rfl
  | _ => rfl

end Imports

/-! ### Functions -/

theorem annotation?_widen (n : Node) : annotation? (widen text n) = widen text (annotation? n) := by
  obtain ⟨k, span, ps⟩ := n
  have found : ((widen text ps).find? (·.kind == .typeAnn)).bind (·.parts.head?) =
      widen text ((ps.find? (·.kind == .typeAnn)).bind (·.parts.head?)) := by
    rw [find?_widen text (by simp)]
    cases ps.find? (·.kind == .typeAnn) <;> simp
  rw [widen_mk]
  cases k with
  | defaulted =>
    match ps with
    | [] => rfl
    | p :: ps => simpa only [widen_cons, annotation?] using annotation?_widen p
  | bind | arrayPattern | objectPattern => simpa only [annotation?] using found
  | _ => rfl

theorem firstParamType?_widen (n : Node) :
    firstParamType? (widen text n) = widen text (firstParamType? n) := by
  simp only [firstParamType?, part?_widen]
  cases n.part? .params with
  | none => rfl
  | some ps =>
    simp only [widen_some, Option.bind_some, undecorated_widen, head?_widen]
    cases ps.undecorated.head? with
    | none => rfl
    | some p => exact annotation?_widen text p

theorem isFunctionLiteral_widen (n : Node) :
    isFunctionLiteral (widen text n) = isFunctionLiteral n := by
  rw [isFunctionLiteral, kind_widen, isFunctionLiteral]

theorem args_widen (n : Node) : (widen text n).args = widen text n.args := by
  simp only [Node.args, part?_widen]
  cases n.part? .arguments <;> simp

theorem namedValue?_widen (n : Node) : namedValue? (widen text n) = widen text (namedValue? n) := by
  obtain ⟨k, span, ps⟩ := n
  rw [widen_mk]
  cases k with
  | declarator =>
    rcases ps with _ | ⟨⟨k, _, _⟩, _ | ⟨value, _⟩⟩
    · rfl
    · cases k <;> rfl
    · cases k <;> simp [namedValue?]
  | _ => rfl

theorem namedValues_widen (n : Node) : namedValues (widen text n) = widen text (namedValues n) := by
  obtain ⟨k, span, ps⟩ := n
  rw [widen_mk]
  cases k with
  | «variables» hoisted => exact widen_filterMap text (namedValue?_widen text) ps
  | _ => rfl

theorem exported?_widen (n : Node) : exported? (widen text n) = widen text (exported? n) := by
  obtain ⟨k, span, ps⟩ := n
  rw [widen_mk]
  cases k with
  | exportDecl => cases ps <;> rfl
  | _ => rfl

theorem listedExports_widen (items : List Node) :
    listedExports (widen text items) = listedExports items := by
  refine flatMap_widen text (fun n => ?_) items
  obtain ⟨k, span, ps⟩ := n
  rw [widen_mk]
  cases k with
  | exportList source typeOnly =>
    rcases source with _ | source
    · cases typeOnly with
      | true => rfl
      | false =>
        refine filterMap_widen text (fun e => ?_) ps
        obtain ⟨k, _, qs⟩ := e
        rw [widen_mk]
        cases k with
        | exportSpec =>
          rcases qs with _ | ⟨⟨k, _, _⟩, _⟩
          · rfl
          · cases k <;> simp
        | _ => rfl
    · rfl
  | _ => rfl

-- What is made of a declaration may be made of its counterpart.
theorem exportedCandidates_widen {shape shape' : Node → List Candidate}
    (same : ∀ n, shape' (widen text n) = shape n) (items : List Node) :
    exportedCandidates (widen text items) shape' = exportedCandidates items shape := by
  simp only [exportedCandidates, widen_filterMap text (exported?_widen text),
    flatMap_widen text same, listedExports_widen]

namespace Module

variable {m : Module}

theorem lineOf_crlf (plain : '\r' ∉ m.text) (n : Node) :
    m.crlf.lineOf (widen (withoutMark m.text) n) = m.lineOf n := by
  rw [lineOf, crlf, withoutMark_crlf, start_widen]
  exact lineAt_crlf (not_mem_withoutMark plain) n.start

theorem imports_crlf : m.crlf.imports.unplaced = m.imports.unplaced :=
  Imports.ofItems_widen (withoutMark m.text) m.items

theorem wantsContext_crlf (o : Options) (n : Node) :
    wantsContext o m.crlf.imports (widen (withoutMark m.text) n) = wantsContext o m.imports n := by
  simp only [wantsContext, firstParamType?_widen]
  cases firstParamType? n with
  | none => rfl
  | some t => exact Imports.isTypeOf_widen _ imports_crlf _ _ t

theorem markedCandidates_crlf (o : Options) (plain : '\r' ∉ m.text) (n : Node) :
    markedCandidates o m.crlf (widen (withoutMark m.text) n) = markedCandidates o m n := by
  rw [markedCandidates, namedValues_widen]
  refine filterMap_widen _ (fun found => ?_) (namedValues n)
  obtain ⟨name, declarator, value⟩ := found
  simp only [widen_pair, widen_fixed, Imports.isCallOf_widen _ imports_crlf, args_widen]
  split
  · rcases value.args with _ | ⟨f, _ | ⟨_, _⟩⟩
    · rfl
    · simp only [widen_cons, widen_nil, isFunctionLiteral_widen, lineOf_crlf plain,
        wantsContext_crlf]
    · rfl
  · rfl

theorem functionCandidates_crlf (o : Options) (plain : '\r' ∉ m.text) (n : Node) :
    functionCandidates o m.crlf (widen (withoutMark m.text) n) = functionCandidates o m n := by
  have values : (namedValues (widen (withoutMark m.text) n)).filterMap (fun found =>
        if isFunctionLiteral found.2.2 then
          some (Candidate.mk found.1 (m.crlf.lineOf found.2.1)
            (wantsContext o m.crlf.imports found.2.2))
        else none) =
      (namedValues n).filterMap fun found =>
        if isFunctionLiteral found.2.2 then
          some ⟨found.1, m.lineOf found.2.1, wantsContext o m.imports found.2.2⟩
        else none := by
    rw [namedValues_widen]
    refine filterMap_widen _ (fun found => ?_) (namedValues n)
    obtain ⟨name, declarator, value⟩ := found
    simp only [widen_pair, widen_fixed, isFunctionLiteral_widen, lineOf_crlf plain,
      wantsContext_crlf]
  obtain ⟨k, span, ps⟩ := n
  have line := lineOf_crlf plain (.mk k span ps)
  have wants := wantsContext_crlf (m := m) o (.mk k span ps)
  rw [widen_mk] at values line wants ⊢
  cases k with
  | functionDecl => simp only [functionCandidates, ownNames_widen, line, wants]
  | _ => exact values

end Module

/-- A text without carriage returns whose lines are ended by a carriage return and a line feed
reads as a module too, and under whatever rules functions are found, it defines the same ones: by
the same names, under the same identifiers and with the same marks. -/
theorem Discovery.scan_crlf {path : Path} {text : List Char} {m : Module}
    (parsed : Module.parse path text = .ok m) (plain : '\r' ∉ text) :
    ∃ m', Module.parse path (crlf text) = .ok m' ∧
      ∀ (d : Discovery) (root : Path), d.scan m' root = d.scan m root := by
  refine ⟨m.crlf, ?_, fun d root => ?_⟩
  · unfold Module.parse at parsed ⊢
    rw [parseScript_crlf _ plain]
    cases read : parseScript (.ofExtension path.extension) text with
    | none => simp [read] at parsed
    | some items =>
      rw [read] at parsed
      obtain rfl := Except.ok.inj parsed
      simp only [widen_some, resolveParts_widen]
      rfl
  · obtain rfl := Module.parse_text parsed
    have marked := exportedCandidates_widen _ (Module.markedCandidates_crlf d.options plain) m.items
    have functions :=
      exportedCandidates_widen _ (Module.functionCandidates_crlf d.options plain) m.items
    have candidates (file : String) : d.candidates m.crlf file = d.candidates m file := by
      have items : m.crlf.items = widen (withoutMark m.text) m.items := rfl
      simp only [Discovery.candidates, Imports.importsFrom_widen Module.imports_crlf, items, marked,
        functions]
    simp only [Discovery.scan, candidates]
    rfl

/-- Lines end in a comment, in a template, in quoted text and where a semicolon is left out. -/
def Sample.manyLines : Source :=
  .of path ("/* two\nlines */ import \x7b func \x7d from \"serverfn\"\n" ++
    "export const f = func(() => \x60a\nb\x60)\n" ++
    "const g = func(() => \"a\\\nb\")\n" ++
    "export \x7b g \x7d").toList (by decide +kernel)

theorem Discovery.scan_crlf_manyLines :
    let m := Sample.manyLines.module
    let marked : Discovery := ⟨.standard, none⟩
    (marked.scan m ⟨"/p"⟩).values.map ServerFunction.id = ["f@a.ts:3", "g@a.ts:5"] ∧
      ∃ m', Module.parse Sample.path (crlf Sample.manyLines.text) = .ok m' ∧
        marked.scan m' ⟨"/p"⟩ = marked.scan m ⟨"/p"⟩ := by
  intro m marked
  have plain : '\r' ∉ Sample.manyLines.text := by decide +kernel
  obtain ⟨m', parsed, same⟩ := Discovery.scan_crlf Sample.manyLines.parsed plain
  exact ⟨by decide +kernel, m', parsed, same marked ⟨"/p"⟩⟩

end ServerLink
