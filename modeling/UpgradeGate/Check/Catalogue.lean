import UpgradeGate.Check.Basic
import UpgradeGate.Glob
import UpgradeGate.Text.Quoted

/-!
The catalogue of checks, at most one for each id, and the patterns that select from it: `*` for all,
the plural of a group, the id of a check, or a glob over ids.
-/

namespace UpgradeGate

/-! ### Patterns -/

inductive Selector where
  | all
  | group (group : CheckGroup)
  | pattern (text : String) (glob : Glob)
deriving Inhabited

namespace Selector

variable {σ : Type}

def wildcard : String := "*"

def globOf (pattern : String) : Except Problem Glob :=
  match Glob.ofString? pattern with
  | some glob => .ok glob
  | none => .error (.invalidPattern pattern)

def ofPattern (pattern : String) : Except Problem Selector :=
  if pattern = wildcard then .ok .all
  else match CheckGroup.ofShortcut? pattern with
    | some g => .ok (.group g)
    | none => return .pattern pattern (← globOf pattern)

def selects (selector : Selector) (check : Check σ) : Bool :=
  match selector with
  | .all => true
  | .group g => check.group = g
  | .pattern text glob => check.id = text || glob.isMatch check.id

end Selector

/-- Whether a pattern selects a check. The check's own id is not read as a glob. -/
def Check.isSelectedBy {σ : Type} (check : Check σ) (pattern : String) : Except Problem Bool :=
  if pattern = Selector.wildcard then .ok true
  else match CheckGroup.ofShortcut? pattern with
    | some g => .ok (check.group = g)
    | none =>
      if pattern = check.id then .ok true
      else return (← Selector.globOf pattern).isMatch check.id

/-! ### Catalogues -/

/-- An order in which a map lists what it holds. It means nothing, and no one may rely on it. -/
structure Arrangement (α : Type) where
  arrange : List α → List α
  perm : ∀ items, (arrange items).Perm items

def Arrangement.unchanged : Arrangement α := ⟨id, List.Perm.refl⟩

/-- Checks, in the order in which they are listed. -/
structure Catalogue (σ : Type) where
  checks : List (Check σ)
  distinct : (checks.map Check.id).Nodup

namespace Catalogue

variable {σ : Type}

def empty : Catalogue σ := ⟨[], List.nodup_nil⟩

instance : EmptyCollection (Catalogue σ) := ⟨empty⟩

instance : Inhabited (Catalogue σ) := ⟨empty⟩

def find? (catalogue : Catalogue σ) (id : String) : Option (Check σ) :=
  catalogue.checks.find? fun check => check.id = id

def size (catalogue : Catalogue σ) : Nat := catalogue.checks.length

def isEmpty (catalogue : Catalogue σ) : Bool := catalogue.checks.isEmpty

def register (check : Check σ) (catalogue : Catalogue σ) : Except Problem (Catalogue σ) :=
  if h : check.id ∈ catalogue.checks.map Check.id then .error (.duplicateCheck check.id)
  else .ok ⟨catalogue.checks ++ [check], by
    rw [List.map_append, List.map_singleton, List.nodup_append]
    refine ⟨catalogue.distinct, by simp, ?_⟩
    rintro id hid _ hnew rfl
    exact h (List.mem_singleton.mp hnew ▸ hid)⟩

/-- Adds a check that has to be new, for wiring that cannot go wrong. -/
def mustRegister (check : Check σ) (catalogue : Catalogue σ) : Except Crash (Catalogue σ) :=
  match catalogue.register check with
  | .ok catalogue => .ok catalogue
  | .error _ => .error (.duplicateCheck check.id)

/-- Adds checks up to the first whose id is taken; those before it stay. -/
def registerAll : List (Check σ) → Catalogue σ → Except Problem Unit × Catalogue σ
  | [], catalogue => (.ok (), catalogue)
  | check :: checks, catalogue =>
    match catalogue.register check with
    | .ok catalogue => registerAll checks catalogue
    | .error problem => (.error problem, catalogue)

/-- The same checks in another order. -/
def arranged (order : Arrangement (Check σ)) (catalogue : Catalogue σ) : Catalogue σ where
  checks := order.arrange catalogue.checks
  distinct := ((order.perm catalogue.checks).map Check.id).nodup_iff.mpr catalogue.distinct

def inGroup (catalogue : Catalogue σ) (group : CheckGroup) : List (Check σ) :=
  catalogue.checks.filter fun check => check.group = group

/-- Puts a check behind those that are kept, unless one with its id is there already. -/
def keep (kept : List (Check σ)) (check : Check σ) : List (Check σ) :=
  if check.id ∈ kept.map Check.id then kept else kept ++ [check]

/-- Keeps those of the checks that the selector selects, out of the given group if there is one. -/
def keepSelected (checks : List (Check σ)) (group? : Option CheckGroup) (kept : List (Check σ))
    (selector : Selector) : List (Check σ) :=
  checks.foldl (fun kept check =>
    if group?.any (check.group ≠ ·) then kept
    else if selector.selects check then keep kept check
    else kept) kept

/--
The checks that the patterns select, in the order in which the first pattern to select each of them
comes. All patterns are read before any check is looked at.
-/
def select (catalogue : Catalogue σ) (patterns : List String) (group? : Option CheckGroup) :
    Except Problem (List (Check σ)) := do
  let selectors ← patterns.mapM Selector.ofPattern
  return selectors.foldl (keepSelected catalogue.checks group?) []

def ids (catalogue : Catalogue σ) : List String :=
  (catalogue.checks.map Check.id).mergeSort fun a b => a ≤ b

def text (catalogue : Catalogue σ) : String :=
  "CheckRegistry \x7b checks: [" ++ ", ".intercalate (catalogue.ids.map Text.quoted) ++ "] \x7d"

end Catalogue

end UpgradeGate
