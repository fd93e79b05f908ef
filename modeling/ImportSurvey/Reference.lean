/-
  References: what a source text says about another module, before anyone looks for that module.

  A reference has the text it was written with, the dialect it was written in, and tags.  The tags form
  a set with one bit per tag, so two sets with the same members are equal and a set always lists its
  members in the same order.
-/
namespace ImportSurvey

/-- The dialect a reference was written in. -/
inductive ModuleSystem where
  /-- `import`, `export … from`, `import()` -/
  | es6
  /-- `require()` -/
  | cjs
  /-- `define([…])`, `require([…])` -/
  | amd
  /-- imports and exports that exist for the type checker only -/
  | tsType
  /-- calls of a configured function that works like `require` -/
  | exoticRequire
deriving DecidableEq, Repr, Inhabited

namespace ModuleSystem

def all : List ModuleSystem := [.es6, .cjs, .amd, .tsType, .exoticRequire]

def name : ModuleSystem → String
  | .es6 => "es6"
  | .cjs => "cjs"
  | .amd => "amd"
  | .tsType => "tsType"
  | .exoticRequire => "exoticRequire"

def names : List (String × ModuleSystem) := all.map fun s => (s.name, s)

end ModuleSystem

/-- What is known of a dependency by the way it was declared or by what it led to. -/
inductive DependencyType where
  | localFile
  | npm
  | core
  | unknown
  | typeOnly
  | dynamicImport
  | reExport
  | exoticRequire
deriving DecidableEq, Repr

namespace DependencyType

def all : List DependencyType :=
  [.localFile, .npm, .core, .unknown, .typeOnly, .dynamicImport, .reExport, .exoticRequire]

def name : DependencyType → String
  | .localFile => "local"
  | .npm => "npm"
  | .core => "core"
  | .unknown => "unknown"
  | .typeOnly => "type-only"
  | .dynamicImport => "dynamic-import"
  | .reExport => "re-export"
  | .exoticRequire => "exotic-require"

def names : List (String × DependencyType) := all.map fun t => (t.name, t)

end DependencyType

/-- A set of dependency types. -/
structure TypeSet where
  localFile : Bool := false
  npm : Bool := false
  core : Bool := false
  unknown : Bool := false
  typeOnly : Bool := false
  dynamicImport : Bool := false
  reExport : Bool := false
  exoticRequire : Bool := false
deriving DecidableEq, Repr, Inhabited

namespace TypeSet

def empty : TypeSet := {}

def has (s : TypeSet) : DependencyType → Bool
  | .localFile => s.localFile
  | .npm => s.npm
  | .core => s.core
  | .unknown => s.unknown
  | .typeOnly => s.typeOnly
  | .dynamicImport => s.dynamicImport
  | .reExport => s.reExport
  | .exoticRequire => s.exoticRequire

/-- The set of the types that satisfy `p`. -/
def ofPred (p : DependencyType → Bool) : TypeSet where
  localFile := p .localFile
  npm := p .npm
  core := p .core
  unknown := p .unknown
  typeOnly := p .typeOnly
  dynamicImport := p .dynamicImport
  reExport := p .reExport
  exoticRequire := p .exoticRequire

def insert (s : TypeSet) (t : DependencyType) : TypeSet := ofPred fun u => u = t || s.has u

def union (a b : TypeSet) : TypeSet := ofPred fun t => a.has t || b.has t

def meets (a b : TypeSet) : Bool := DependencyType.all.any fun t => a.has t && b.has t

def toList (s : TypeSet) : List DependencyType := DependencyType.all.filter s.has

def ofList (ts : List DependencyType) : TypeSet := ofPred fun t => ts.contains t

theorem ext {a b : TypeSet} (h : ∀ t, a.has t = b.has t) : a = b := by
  cases a; cases b
  have h1 := h .localFile; have h2 := h .npm; have h3 := h .core; have h4 := h .unknown
  have h5 := h .typeOnly; have h6 := h .dynamicImport; have h7 := h .reExport
  have h8 := h .exoticRequire
  simp only [has] at h1 h2 h3 h4 h5 h6 h7 h8
  simp [h1, h2, h3, h4, h5, h6, h7, h8]

@[simp] theorem has_ofPred (p : DependencyType → Bool) (t : DependencyType) :
    (ofPred p).has t = p t := by cases t <;> rfl

@[simp] theorem has_insert (s : TypeSet) (t u : DependencyType) :
    (s.insert t).has u = (decide (u = t) || s.has u) := by simp [insert]

@[simp] theorem has_union (a b : TypeSet) (t : DependencyType) :
    (a.union b).has t = (a.has t || b.has t) := by simp [union]

end TypeSet

/-- A reference to another module as found in a source text. -/
structure Reference where
  /-- the text exactly as written -/
  moduleName : String
  moduleSystem : ModuleSystem
  /-- loaded while the program runs -/
  dynamic : Bool := false
  dependencyTypes : TypeSet := {}
  /-- the configured function that was called -/
  exoticRequire : Option String := none
deriving DecidableEq, Repr, Inhabited

namespace Reference

/-- A static reference without tags. -/
def plain (name : String) (system : ModuleSystem) : Reference := ⟨name, system, false, {}, none⟩

def asDynamic (r : Reference) : Reference :=
  { r with dynamic := true, dependencyTypes := r.dependencyTypes.insert .dynamicImport }

def tagged (r : Reference) (t : DependencyType) : Reference :=
  { r with dependencyTypes := r.dependencyTypes.insert t }

def viaExotic (r : Reference) (callee : String) : Reference :=
  { r with exoticRequire := some callee, dependencyTypes := r.dependencyTypes.insert .exoticRequire }

end Reference

end ImportSurvey
