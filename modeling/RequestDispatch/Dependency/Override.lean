import RequestDispatch.Dependency.Factory

/-!
# Overrides

An override scope replaces factories by others, by the identity of the replaced one. Scopes form a
chain in which the last scope that replaces a factory decides. A replacement is not itself replaced.
-/

namespace RequestDispatch

/-- The replacements of one scope, by the identity of the replaced factory. -/
structure OverrideScope (σ κ ν : Type) where
  replacements : List (FactoryId × Factory σ κ ν)
  /-- No factory has two replacements. -/
  distinct : (replacements.map (·.1)).Nodup

namespace OverrideScope

variable {σ κ ν : Type}

/-- A scope that replaces nothing. -/
def empty : OverrideScope σ κ ν := ⟨[], .nil⟩

/-- The replacement of a factory. -/
def get? (scope : OverrideScope σ κ ν) (id : FactoryId) : Option (Factory σ κ ν) :=
  scope.replacements.lookup id

/-- Takes the replacement of a factory away. -/
def erase (scope : OverrideScope σ κ ν) (id : FactoryId) : OverrideScope σ κ ν where
  replacements := scope.replacements.filter fun (replaced, _) => replaced != id
  distinct := scope.distinct.sublist (List.filter_sublist.map _)

/-- What has been taken away is not there. -/
theorem not_mem_erase (scope : OverrideScope σ κ ν) (id : FactoryId) :
    id ∉ (scope.erase id).replacements.map (·.1) := by
  rintro h
  obtain ⟨_, hmem, rfl⟩ := List.mem_map.mp h
  simpa using (List.mem_filter.mp hmem).2

/-- Replaces a factory, instead of any earlier replacement of it. -/
def insert (scope : OverrideScope σ κ ν) (replaced replacement : Factory σ κ ν) :
    OverrideScope σ κ ν where
  replacements := (replaced.id, replacement) :: (scope.erase replaced.id).replacements
  distinct := List.nodup_cons.mpr ⟨scope.not_mem_erase _, (scope.erase replaced.id).distinct⟩

/-- The number of replaced factories. -/
def size (scope : OverrideScope σ κ ν) : Nat := scope.replacements.length

end OverrideScope

/-- Override scopes, the deciding ones last. -/
structure OverrideChain (σ κ ν : Type) where
  scopes : List (OverrideScope σ κ ν)

namespace OverrideChain

variable {σ κ ν : Type}

/-- A chain that replaces nothing. -/
def empty : OverrideChain σ κ ν := ⟨[]⟩

/-- Adds a scope that decides over all before it. -/
def push (chain : OverrideChain σ κ ν) (scope : OverrideScope σ κ ν) : OverrideChain σ κ ν :=
  ⟨chain.scopes ++ [scope]⟩

/-- The replacement of a factory: that of the last scope with one. -/
def lookup (chain : OverrideChain σ κ ν) (f : Factory σ κ ν) : Option (Factory σ κ ν) :=
  (chain.scopes.filterMap (·.get? f.id)).getLast?

/-- The factory that is called for a declared one. -/
def effective (chain : OverrideChain σ κ ν) (f : Factory σ κ ν) : Factory σ κ ν :=
  (chain.lookup f).getD f

end OverrideChain

end RequestDispatch
