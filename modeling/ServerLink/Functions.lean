import ServerLink.Files.Path

/-!
Server functions, and the functions of one file by the names they are exported under. The names
of a `FunctionMap` stand in increasing order, each once.
-/

set_option autoImplicit false

namespace ServerLink

structure ServerFunction where
  id : String
  sourceFile : Path
  exportedName : String
  localName : String
  /-- The function wants the context of the call before its arguments. -/
  requiresContext : Bool
  deriving DecidableEq, Repr

/-- The identifier of a function: its name, its file below the root and its line. -/
def functionId (name file : String) (line : Nat) : String :=
  name ++ "@" ++ file ++ ":" ++ toString line

structure FunctionMap where
  entries : List (String × ServerFunction)
  deriving DecidableEq, Repr

namespace FunctionMap

def empty : FunctionMap := ⟨[]⟩

def isEmpty (m : FunctionMap) : Bool := m.entries.isEmpty

def size (m : FunctionMap) : Nat := m.entries.length

def values (m : FunctionMap) : List ServerFunction := m.entries.map Prod.snd

def get? (m : FunctionMap) (key : String) : Option ServerFunction :=
  m.entries.lookup key

/-- Puts an entry in its place; an entry of the same key is replaced. -/
def insertSorted (key : String) (f : ServerFunction) :
    List (String × ServerFunction) → List (String × ServerFunction)
  | [] => [(key, f)]
  | (k, g) :: rest =>
      if key < k then (key, f) :: (k, g) :: rest
      else if key = k then (key, f) :: rest
      else (k, g) :: insertSorted key f rest

def insert (m : FunctionMap) (key : String) (f : ServerFunction) : FunctionMap :=
  ⟨insertSorted key f m.entries⟩

theorem lookup_insertSorted (key : String) (f : ServerFunction)
    (entries : List (String × ServerFunction)) :
    (insertSorted key f entries).lookup key = some f := by
  induction entries with
  | nil => simp [insertSorted]
  | cons entry rest ih =>
      obtain ⟨k, g⟩ := entry
      by_cases hlt : key < k
      · simp [insertSorted, hlt]
      · by_cases heq : key = k
        · simp [insertSorted, heq]
        · have differ : (key == k) = false := by simpa using heq
          simp [insertSorted, hlt, heq, List.lookup_cons, differ, ih]

theorem lookup_insertSorted_ne {key other : String} (h : other ≠ key) (f : ServerFunction)
    (entries : List (String × ServerFunction)) :
    (insertSorted key f entries).lookup other = entries.lookup other := by
  have differ : (other == key) = false := by simpa using h
  induction entries with
  | nil => simp [insertSorted, List.lookup_cons, differ]
  | cons entry rest ih =>
      obtain ⟨k, g⟩ := entry
      by_cases hlt : key < k
      · simp [insertSorted, hlt, List.lookup_cons, differ]
      · by_cases heq : key = k
        · subst heq
          simp [insertSorted, List.lookup_cons, differ]
        · simp [insertSorted, hlt, heq, List.lookup_cons, ih]

@[simp] theorem get?_insert (m : FunctionMap) (key : String) (f : ServerFunction) :
    (m.insert key f).get? key = some f :=
  lookup_insertSorted key f m.entries

theorem get?_insert_ne (m : FunctionMap) {key other : String} (h : other ≠ key)
    (f : ServerFunction) : (m.insert key f).get? other = m.get? other :=
  lookup_insertSorted_ne h f m.entries

/-- Later entries replace earlier ones of the same key. -/
def ofList (entries : List (String × ServerFunction)) : FunctionMap :=
  entries.foldl (fun m entry => m.insert entry.1 entry.2) empty

end FunctionMap

end ServerLink
