import Mathlib.Data.List.Forall2
import SchedulerLink.Command.Listing

/-!
What the listing of clusters says about the way to their schedulers.

A row shows in a column of its own how a scheduler is reached. It goes by the first field that is
there, be it blank. The way to a scheduler is read from the first field that says something.
-/

namespace SchedulerLink

namespace Listing

/-! Columns. -/

theorem toList_padded (width : Nat) (text : String) :
    (padded width text).toList = text.toList ++ List.replicate (width - text.length) ' ' := by
  rw [padded, String.toList_append, String.toList_ofList]

theorem length_padded (width : Nat) (text : String) :
    (padded width text).toList.length = max width text.length := by
  rw [toList_padded, List.length_append, List.length_replicate, String.length_toList]
  omega

def modeIn (name row : String) : String :=
  Text.trimmed (String.ofList ((row.toList.drop (max 16 name.length + 1)).take 10))

theorem modeIn_row (name target : String) {mode : String} (short : mode.length ≤ 10) :
    modeIn name (row name mode target) = Text.trimmed (padded 10 mode) := by
  have parts : (row name mode target).toList =
      ((padded 16 name).toList ++ [' ']) ++ ((padded 10 mode).toList ++ ' ' :: target.toList) := by
    simp only [row, toString, String.toList_append, List.append_assoc]
    rfl
  have before : ((padded 16 name).toList ++ [' ']).length = max 16 name.length + 1 := by
    rw [List.length_append, length_padded, List.length_singleton]
  have wide : (padded 10 mode).toList.length = 10 := by
    rw [length_padded, Nat.max_eq_left short]
  rw [modeIn, parts, List.drop_left' before, List.take_left' wide, String.ofList_toList]

theorem modeIn_clusterRow (cluster : Cluster) :
    modeIn cluster.name (clusterRow cluster) =
      match cluster.registry, cluster.schedulerUri with
      | some _, _ => "zk"
      | none, some _ => "direct"
      | none, none => "-" := by
  have zk : Text.trimmed (padded 10 "zk") = "zk" := by decide +kernel
  have direct : Text.trimmed (padded 10 "direct") = "direct" := by decide +kernel
  have missing : Text.trimmed (padded 10 "-") = "-" := by decide +kernel
  cases there : cluster.registry with
  | some ensemble =>
    simp only [clusterRow, there]
    exact (modeIn_row _ _ (by decide)).trans zk
  | none =>
    cases fixed : cluster.schedulerUri with
    | some uri =>
      simp only [clusterRow, there, fixed]
      exact (modeIn_row _ _ (by decide)).trans direct
    | none =>
      simp only [clusterRow, there, fixed]
      exact (modeIn_row _ _ (by decide)).trans missing

/-! Rows and the clusters that they are about. -/

/-- Whether a row says how the scheduler of a cluster is reached. -/
structure Tells (cluster : Cluster) (row : String) : Prop where
  registry : modeIn cluster.name row = "zk" ↔ ∃ target, cluster.target = .ok (.registry target)
  direct : modeIn cluster.name row = "direct" ↔ ∃ uri, cluster.target = .ok (.direct uri)
  missing : modeIn cluster.name row = "-" ↔ ∃ missing, cluster.target = .error missing

def modeOf : Except MissingTarget Target → String
  | .ok (.registry _) => "zk"
  | .ok (.direct _) => "direct"
  | .error _ => "-"

theorem tells_iff {cluster : Cluster} {row : String} :
    Tells cluster row ↔ modeIn cluster.name row = modeOf cluster.target := by
  rcases reached : cluster.target with missing | target | uri
  · refine ⟨fun tells => tells.missing.mpr ⟨missing, reached⟩, fun shown => ?_⟩
    constructor <;> simp [shown, reached, modeOf]
  · refine ⟨fun tells => tells.registry.mpr ⟨target, reached⟩, fun shown => ?_⟩
    constructor <;> simp [shown, reached, modeOf]
  · refine ⟨fun tells => tells.direct.mpr ⟨uri, reached⟩, fun shown => ?_⟩
    constructor <;> simp [shown, reached, modeOf]

/-- The row of a cluster is right unless the first field that is there is blank. -/
theorem tells_clusterRow_iff (cluster : Cluster) :
    Tells cluster (clusterRow cluster) ↔
      ∀ text ∈ cluster.registry.or cluster.schedulerUri, Cluster.stated (some text) ≠ none := by
  have absent : Cluster.stated none = none := rfl
  rw [tells_iff, modeIn_clusterRow, Cluster.target]
  cases cluster.registry with
  | some ensemble =>
    cases stated : Cluster.stated (some ensemble) with
    | some hosts => simp [modeOf, stated]
    | none => cases Cluster.stated cluster.schedulerUri <;> simp [modeOf, stated]
  | none =>
    cases cluster.schedulerUri with
    | some uri => cases stated : Cluster.stated (some uri) <;> simp [modeOf, absent, stated]
    | none => simp [modeOf, absent]

/-- The listing has a row for each cluster, in their order. A row says how the scheduler is reached
exactly if the first field that is there, a registry or else an address, is not blank. -/
theorem rows_tell_modes_unless_blank (clusters : List Cluster) :
    ∃ heading rows, Listing.clusters clusters = ofLines (heading :: rows) ∧
      List.Forall₂ (fun cluster row => Tells cluster row ↔
        ∀ text ∈ cluster.registry.or cluster.schedulerUri, Cluster.stated (some text) ≠ none)
        clusters rows := by
  cases clusters with
  | nil => exact ⟨"No clusters configured.", [], by decide +kernel, .nil⟩
  | cons first rest =>
    refine ⟨row "NAME" "MODE" "TARGET", (first :: rest).map clusterRow, rfl, ?_⟩
    rw [List.forall₂_map_right_iff, List.forall₂_same]
    exact fun cluster _ => tells_clusterRow_iff cluster

def blankCluster : Cluster := { name := "west", registry := some "  ", schedulerUri := some "" }

/-- A blank registry is shown as one, though nothing is said about the way to a scheduler. -/
theorem blank_registry_is_shown :
    Listing.clusters [blankCluster] = ofLines [row "NAME" "MODE" "TARGET", clusterRow blankCluster] ∧
      modeIn blankCluster.name (clusterRow blankCluster) = "zk" ∧
      blankCluster.target = .error ⟨"west"⟩ ∧
      ¬ Tells blankCluster (clusterRow blankCluster) := by
  have nothing : blankCluster.target = .error ⟨"west"⟩ := by decide +kernel
  have shown : modeIn blankCluster.name (clusterRow blankCluster) = "zk" :=
    modeIn_clusterRow blankCluster
  refine ⟨rfl, shown, nothing, fun tells => ?_⟩
  obtain ⟨target, reached⟩ := tells.registry.mp shown
  cases nothing.symm.trans reached

end Listing

end SchedulerLink
