/-
  Syntax trees, as far as references to other modules can be read off them.

  A tree keeps calls, names, literals, lists and the declarations that import or export.  All else of a
  script is a `group`: its parts in the order in which they are written.  What looks like a call but is
  none that a reference can be read from (a constructor, a tagged template) is a group too, and so are
  the wrappings that hide a name or a literal: brackets, casts, spreads.

  `Node.visit` lists all nodes of a tree in reading order, each with the number of calls of `define`
  around it.  Whatever is extracted from a tree is a function of that list.
-/
namespace ImportSurvey.Script

/-- A string literal or a template without substitutions. -/
structure Literal where
  value : String
  /-- how many characters stand before it in the text -/
  position : Nat
deriving DecidableEq, Repr, Inhabited

inductive Node where
  | name (text : String)
  /-- `object.property` -/
  | member (object : Node) (property : String)
  | text (literal : Literal)
  /-- a template without substitutions -/
  | template (literal : Literal)
  | array (elements : List Node)
  /-- a call, with the types it names and its arguments -/
  | call (callee : Node) (types : List Node) (arguments : List Node)
  /-- `import(source, …)` -/
  | importCall (source : Node) (options : List Node)
  /-- `import … from source` -/
  | importFrom (typeOnly : Bool) (source : Literal)
  /-- `export * from source` -/
  | exportAll (typeOnly : Bool) (source : Literal)
  /-- `export {…} from source`, or an export of the declarations `inner` -/
  | exportNamed (typeOnly : Bool) (source : Option Literal) (inner : List Node)
  /-- `import name = require(source)`; without source it names a part of a namespace -/
  | importEquals (typeOnly : Bool) (source : Option Literal)
  | group (parts : List Node)
deriving Repr, Inhabited

namespace Node

/-- Whether a node is a call of a bare name. -/
def calls (name : String) : Node → Bool
  | .call (.name n) _ _ => n == name
  | _ => false

/-- A node and how many calls of `define` stand around it. -/
structure Visit where
  depth : Nat
  node : Node
deriving Repr, Inhabited

mutual

/-- All nodes of a tree in reading order, with `depth` calls of `define` around the tree. -/
def visit (depth : Nat) : Node → List Visit
  | .name n => [⟨depth, .name n⟩]
  | .member o p => ⟨depth, .member o p⟩ :: visit depth o
  | .text l => [⟨depth, .text l⟩]
  | .template l => [⟨depth, .template l⟩]
  | .array es => ⟨depth, .array es⟩ :: visitAll depth es
  | .call c ts as =>
    let within := if calls "define" (.call c ts as) then depth + 1 else depth
    ⟨depth, .call c ts as⟩ :: (visit within c ++ visitAll within ts ++ visitAll within as)
  | .importCall s os => ⟨depth, .importCall s os⟩ :: (visit depth s ++ visitAll depth os)
  | .importFrom t s => [⟨depth, .importFrom t s⟩]
  | .exportAll t s => [⟨depth, .exportAll t s⟩]
  | .exportNamed t s inner => ⟨depth, .exportNamed t s inner⟩ :: visitAll depth inner
  | .importEquals t s => [⟨depth, .importEquals t s⟩]
  | .group parts => ⟨depth, .group parts⟩ :: visitAll depth parts

/-- All nodes of several trees, one tree after the other. -/
def visitAll (depth : Nat) : List Node → List Visit
  | [] => []
  | n :: ns => visit depth n ++ visitAll depth ns

end

/-- The literal that a node is. -/
def literal? : Node → Option Literal
  | .text l | .template l => some l
  | _ => none

/-- A name, or names joined by points. -/
def dotted? : Node → Option String
  | .name n => some n
  | .member o p => (dotted? o).map fun o => o ++ "." ++ p
  | _ => none

end Node

end ImportSurvey.Script
