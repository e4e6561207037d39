/-!
Syntax trees of scripts. A tree is a kind, the span of text it was read from, and its parts in
order; what a kind's parts are is said beside the kind. Names that nothing looks up, such as
property names and labels, are kept as `word`.
-/

set_option autoImplicit false

namespace ServerLink.Script

/-- A range of bytes of the source. -/
structure Span where
  start : Nat
  stop : Nat
  deriving DecidableEq, Repr

/-- What an import takes from the other module. -/
inductive Imported where
  | named (name : String)
  | default
  | namespace
  deriving DecidableEq, Repr

inductive Kind where
  /-- A name used as a value; `outer` once it is known to mean the module's own. -/
  | use (name : String) (outer : Bool)
  /-- A name declared as a value; a type annotation may be its part. -/
  | bind (name : String) (outer : Bool)
  | typeUse (name : String) (outer : Bool)
  | typeBind (name : String)
  | word (name : String)
  /-- Numbers, patterns, keywords that stand for values. -/
  | literal
  | text (value : String)
  | template
  | hole
  -- expressions
  | array
  | object
  | property
  | shorthand
  /-- `a = 1` inside braces, which only a pattern may hold. -/
  | initialized
  | spread
  | method
  | getter
  | setter
  | computed
  /-- Name, type parameters, `params`, return type, `body`, as far as present. -/
  | function
  /-- Type parameters, `params`, return type, and the body or one expression. -/
  | arrow
  /-- Patterns, each behind its decorators. -/
  | params
  | body
  /-- Decorators, name, type parameters, heritage, members. -/
  | classExpr
  | extends
  | implements
  | field
  | staticBlock
  | indexSignature
  | decorator
  | member (property : String)
  | privateMember
  | index
  /-- Callee, type arguments, `arguments`. -/
  | call
  | chainCall
  | chain
  | superCall
  | importCall
  | construct
  | tagged
  | arguments
  | paren
  | sequence
  | unary (operator : String)
  | update
  | binary (operator : String)
  | conditional
  | assign (operator : String)
  | yield
  | await
  | cast
  /-- A type between angle brackets, and the expression it stands before. -/
  | assertion
  | nonNull
  | instantiation
  | markup
  -- patterns
  | arrayPattern
  | objectPattern
  | patternProperty
  | defaulted
  | rest
  -- statements
  | expressionStatement
  | block
  | statement
  | forLoop
  | switchBody
  | catchClause
  | labelled (name : String)
  /-- `hoisted` when declared with `var`. -/
  | variables (hoisted : Bool)
  /-- Declared with `using`: values that are disposed of at the end of the scope. -/
  | resources
  | declarator
  | functionDecl
  | classDecl
  | enumDecl
  | enumMember (name : Option String)
  | namespaceDecl
  | interfaceDecl
  | aliasDecl
  | importAlias
  -- module items
  | importDecl (source : String) (typeOnly : Bool)
  | importSpec (imported : Imported) (typeOnly : Bool)
  | exportDecl
  | exportList (source : Option String) (typeOnly : Bool)
  | exportSpec (exported : String) (typeOnly : Bool)
  | exportDefault
  | exportAll
  | exportAssign
  -- types
  | typeRef
  | qualified (property : String)
  | typeAnn
  | typeParams
  | typeParam
  | typeArgs
  | functionType
  | mappedType
  | conditionalType
  | inferType
  /-- A type, or a part of one, that declares nothing. -/
  | typePart
  deriving DecidableEq, Repr

inductive Node where
  | mk (kind : Kind) (span : Span) (parts : List Node)
  deriving Repr

namespace Node

def kind : Node → Kind
  | mk k _ _ => k

def span : Node → Span
  | mk _ s _ => s

def parts : Node → List Node
  | mk _ _ ps => ps

def start (n : Node) : Nat := n.span.start

def stop (n : Node) : Nat := n.span.stop

@[simp] theorem kind_mk (k : Kind) (s : Span) (ps : List Node) : (mk k s ps).kind = k := rfl

@[simp] theorem span_mk (k : Kind) (s : Span) (ps : List Node) : (mk k s ps).span = s := rfl

@[simp] theorem parts_mk (k : Kind) (s : Span) (ps : List Node) : (mk k s ps).parts = ps := rfl

/-- The first part of a kind. -/
def part? (n : Node) (k : Kind) : Option Node :=
  n.parts.find? (·.kind == k)

/-- The parts without the decorators among them. -/
def undecorated (n : Node) : List Node := n.parts.filter (·.kind != .decorator)

def withKind (n : Node) (k : Kind) : Node := mk k n.span n.parts

end Node

end ServerLink.Script
