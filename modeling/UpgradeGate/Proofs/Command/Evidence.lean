import Mathlib.Data.Option.Basic
import UpgradeGate.Proofs.Command.Delivery

/-!
# More evidence never unblocks

A snapshot may be taken of more and more of a cluster. A run that fails over what it sees does not
succeed once it sees more: it fails again, or it cannot be carried out any longer.
-/

namespace UpgradeGate.Command

theorem currentOf_congr {store other : Store} (given? : Option String)
    (hfirst : other.first? .dataScienceCluster = store.first? .dataScienceCluster) :
    currentOf given? other = currentOf given? store := by
  unfold currentOf
  rw [Platform.version?_congr hfirst]

namespace Conduct

variable {machine grown : Machine} {invocation : Invocation} {options : RunOptions}
  (conduct : Conduct machine invocation options) (later : Conduct grown invocation options)

section Same

variable (hsettings : later.settings = conduct.settings)

include hsettings

theorem target_eq_of_settings : later.target? = conduct.target? := by
  have hlater := later.target_eq
  rw [hsettings] at hlater
  exact Except.ok.inj (hlater.symm.trans conduct.target_eq)

/-- The snapshot does not count for which checks are selected. -/
theorem mem_checks_iff_of_settings (check : Check Unit) :
    check ∈ later.checks ↔ check ∈ conduct.checks := by
  have hgroup := later.group_eq
  rw [hsettings, conduct.group_eq] at hgroup
  have hcatalogue : later.catalogue.checks.Perm conduct.catalogue.checks :=
    (checks_builtinCatalogue later.catalogue_eq).trans
      (checks_builtinCatalogue conduct.catalogue_eq).symm
  rw [Catalogue.mem_of_select later.checks_eq, Catalogue.mem_of_select conduct.checks_eq,
    hcatalogue.mem_iff, hsettings, ← Except.ok.inj hgroup]

theorem extends_upgrade {items more : List Json} (hstore : conduct.store = Snapshot.storeOf items)
    (hgrown : later.store = Snapshot.storeOf (items ++ more)) :
    later.upgrade.Extends conduct.upgrade := by
  have hextends : later.store.Extends conduct.store := by
    rw [hstore, hgrown]
    exact Snapshot.extends_storeOf items more
  refine ⟨hextends, conduct.target_eq_of_settings later hsettings, fun cluster hcluster => ?_⟩
  have hfirst := (hextends.first?_eq (by decide) hcluster).trans hcluster.symm
  have hcurrent : currentOf options.current? later.store = .ok conduct.current? :=
    (currentOf_congr options.current? hfirst).trans conduct.current_eq
  exact Except.ok.inj (later.current_eq.symm.trans hcurrent)

end Same

end Conduct

/-- A run that fails, be it on blocking or on advisory impacts, does not succeed with the same
command line and the same settings if its snapshot goes on behind what it held before, with one
object or with several. -/
theorem outcome_stays_closed {machine grown : Machine} {invocation : Invocation}
    {options : RunOptions} (haction : invocation.action = .run options) {settings : Settings}
    (hsettings : loadSettings machine invocation.noSettings options.settings? = .ok settings)
    (hgrownSettings : loadSettings grown invocation.noSettings options.settings? = .ok settings)
    (hfailOn : settings.failOn ≠ .never) {items more : List Json}
    (hshows : Snapshot.Shows machine.files.read options.snapshot items)
    (hgrownShows : Snapshot.Shows grown.files.read options.snapshot (items ++ more))
    (hfails : (outcome machine invocation).exitCode = 1) :
    (outcome grown invocation).exitCode ≠ 0 := by
  intro hsucceeds
  -- Both exit codes say that the run is carried out, so that both are those of their executions.
  obtain ⟨conduct, hcode⟩ := Conduct.exists_of_outcome haction (by rw [hfails]; decide)
  obtain ⟨later, hlaterCode⟩ := Conduct.exists_of_outcome haction (by rw [hsucceeds]; decide)
  have hconduct : conduct.settings = settings :=
    Except.ok.inj (conduct.settings_eq.symm.trans hsettings)
  have hlater : later.settings = settings :=
    Except.ok.inj (later.settings_eq.symm.trans hgrownSettings)
  have hsame : later.settings = conduct.settings := hlater.trans hconduct.symm
  have hextends : later.upgrade.Extends conduct.upgrade :=
    conduct.extends_upgrade later hsame (hshows.load_eq conduct.store_eq)
      (hgrownShows.load_eq later.store_eq)
  obtain ⟨check, hcheck, answer, hanswers, hheeds⟩ :=
    conduct.exitCode_eq_one_iff.mp (hcode.symm.trans hfails)
  rw [hconduct] at hheeds
  have hgrown := Builtin.heedsAnswer_of_extends hextends hfailOn (conduct.mem_builtin hcheck)
    { notes := () } hanswers hheeds
  have hfailsAgain : later.exitCode = 1 := by
    rw [later.exitCode_eq_one_iff, hlater]
    exact ⟨check, (conduct.mem_checks_iff_of_settings later hsame check).mpr hcheck, hgrown⟩
  rw [hlaterCode, hfailsAgain] at hsucceeds
  cases hsucceeds

/-! A snapshot with a control plane whose version is no text, and then a cluster besides. -/

def clusterText : String :=
  "\x7b\"apiVersion\":\"datasciencecluster.opendatahub.io/v1\"," ++
    "\"kind\":\"DataScienceCluster\"\x7d"

def plane : Json :=
  .obj [("apiVersion", .str "maistra.io/v2"), ("kind", .str "ServiceMeshControlPlane"),
    ("spec", .obj [("version", .arr [])])]

def cluster : Json :=
  .obj [("apiVersion", .str "datasciencecluster.opendatahub.io/v1"),
    ("kind", .str "DataScienceCluster")]

def nextMajorRun : Invocation where
  action := .run { snapshot := "cluster.json", target? := some "3.0.0" }

theorem shows_machineWith {text : String} {items : List Json}
    (hparse : Json.parse? text = some (.arr items)) :
    Snapshot.Shows (machineWith text).files.read "cluster.json" items := by
  have hformat : Snapshot.formatOf "cluster.json" = .json := by decide +kernel
  refine ⟨text, .arr items, rfl, ?_, .bare items⟩
  rw [hformat]
  exact hparse

theorem outcome_stays_closed_malformed :
    (outcome (machineWith ("[" ++ planeText ++ "]")) nextMajorRun).exitCode = 1 ∧
    (outcome (machineWith ("[" ++ planeText ++ "," ++ clusterText ++ "]")) nextMajorRun).exitCode ≠
      0 := by
  have hplane : Json.parse? ("[" ++ planeText ++ "]") = some (.arr [plane]) := by cbv
  have hboth : Json.parse? ("[" ++ planeText ++ "," ++ clusterText ++ "]") =
    some (.arr ([plane] ++ [cluster])) := by cbv
  have hfails : (outcome (machineWith ("[" ++ planeText ++ "]")) nextMajorRun).exitCode = 1 := by
    decide +kernel
  exact ⟨hfails, outcome_stays_closed rfl rfl rfl (by decide) (shows_machineWith hplane)
    (shows_machineWith hboth) hfails⟩

end UpgradeGate.Command
