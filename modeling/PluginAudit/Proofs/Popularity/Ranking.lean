import Mathlib
import PluginAudit.Proofs.Popularity.Feedback
import PluginAudit.Proofs.Text.Sorting

namespace PluginAudit

def Outranks (a b : String × Int) : Prop :=
  b.2 < a.2 ∨ (a.2 = b.2 ∧ a.1 < b.1)

theorem Outranks.asymm {a b : String × Int} (first : Outranks a b) : ¬ Outranks b a := by
  intro second
  rcases first with more | ⟨same, earlier⟩ <;> rcases second with moreBack | ⟨sameBack, earlierBack⟩
  · omega
  · omega
  · omega
  · exact String.lt_asymm earlier earlierBack

/-- A register that lists the names that some plugin has, each with the number of its plugins, in strict order. -/
structure Ranks (register : Register Int) (plugins : String → Finset String) : Prop where
  mem_iff : ∀ name n, (name, n) ∈ register ↔ (plugins name).Nonempty ∧ n = (plugins name).card
  sorted : register.Pairwise Outranks

namespace Ranks

variable {register other : Register Int} {plugins : String → Finset String}

theorem nodup (ranks : Ranks register plugins) : register.Nodup := by
  refine ranks.sorted.imp ?_
  rintro a _ before rfl
  exact before.asymm before

theorem unique (ranks : Ranks register plugins) (ranksOther : Ranks other plugins) : register = other := by
  have same : register.Perm other := by
    rw [List.perm_ext_iff_of_nodup ranks.nodup ranksOther.nodup]
    rintro ⟨name, n⟩
    rw [ranks.mem_iff, ranksOther.mem_iff]
  apply List.Perm.eq_of_pairwise _ ranks.sorted ranksOther.sorted same
  intro a b _ _ before behind
  exact absurd behind before.asymm

theorem one_le (ranks : Ranks register plugins) {name : String} {n : Int} (member : (name, n) ∈ register) : 1 ≤ n := by
  obtain ⟨some, rfl⟩ := (ranks.mem_iff name n).mp member
  have positive := some.card_pos
  omega

/-- Plugins that each have one of the listed names are at most as many as the numbers of these names make together. -/
theorem card_le_sum (ranks : Ranks register plugins) (chosen : String → Bool) {all : Finset String}
    (covered : ∀ plugin ∈ all, ∃ name, chosen name = true ∧ plugin ∈ plugins name) :
    (all.card : Int) ≤ ((register.filter fun entry => chosen entry.1).map Prod.snd).sum := by
  have nodup : (register.filter fun entry => chosen entry.1).Nodup := ranks.nodup.filter _
  have subset : all ⊆ (register.filter fun entry => chosen entry.1).toFinset.biUnion fun entry => plugins entry.1 := by
    intro plugin member
    obtain ⟨name, isChosen, has⟩ := covered plugin member
    have listed := (ranks.mem_iff name _).mpr ⟨⟨plugin, has⟩, rfl⟩
    simp only [Finset.mem_biUnion, List.mem_toFinset, List.mem_filter]
    exact ⟨_, ⟨listed, isChosen⟩, has⟩
  have bound := (Finset.card_le_card subset).trans Finset.card_biUnion_le
  rw [List.sum_toFinset _ nodup] at bound
  have numbers : (register.filter fun entry => chosen entry.1).map Prod.snd =
      (register.filter fun entry => chosen entry.1).map fun entry => ((plugins entry.1).card : Int) := by
    refine List.map_congr_left fun entry member => ?_
    exact ((ranks.mem_iff entry.1 entry.2).mp (List.mem_of_mem_filter member)).2
  have total := Nat.cast_list_sum (R := Int)
    ((register.filter fun entry => chosen entry.1).map fun entry => (plugins entry.1).card)
  rw [List.map_map] at total
  rw [numbers]
  exact (Int.ofNat_le.mpr bound).trans total.le

end Ranks

namespace Corpus

theorem sortsBy_le : SortsBy le (fun entry => -entry.2) (·.1) := by
  intro a b
  simp [le]

theorem pairwise_ranked {found : Writers} (nodup : found.names.Nodup) : (ranked found).Pairwise Outranks := by
  have names : ((found.map fun entry => (entry.1, (entry.2.length : Int))).map (·.1)).Nodup := by
    rw [List.map_map]
    exact nodup
  refine (sortsBy_le.pairwise names).imp fun {a b} sooner => ?_
  rcases sooner with more | ⟨same, low⟩
  · left; omega
  · right; exact ⟨by omega, low⟩

section Counting

variable (keys : String → List String) (corpus : Corpus)

def pluginsWith (key : String) : Finset String :=
  (having keys corpus key).names.toFinset

theorem mem_pluginsWith (key plugin : String) :
    plugin ∈ pluginsWith keys corpus key ↔ ∃ source, (plugin, source) ∈ corpus ∧ key ∈ keys source := by
  simp [pluginsWith, having, Register.names]

theorem mem_foldl_writers (found : Writers) (key plugin : String) :
    plugin ∈ ((corpus.foldl (fun found entry => (keys entry.2).foldl (note · entry.1) found) found).get? key).getD [] ↔
      plugin ∈ (found.get? key).getD [] ∨ plugin ∈ pluginsWith keys corpus key := by
  induction corpus generalizing found with
  | nil => simp [mem_pluginsWith]
  | cons entry rest ih =>
    have noted : plugin ∈ (((keys entry.2).foldl (note · entry.1) found).get? key).getD [] ↔
        plugin ∈ (found.get? key).getD [] ∨ (plugin = entry.1 ∧ key ∈ keys entry.2) := by
      rw [getD_foldl_note]
      split <;> grind
    rw [List.foldl_cons, ih, noted]
    simp only [mem_pluginsWith, List.mem_cons]
    grind

theorem nodup_writers (key : String) : (((writers keys corpus).get? key).getD []).Nodup := by
  apply writers_induction (motive := fun found => ((found.get? key).getD []).Nodup) List.nodup_nil
  intro found plugin other nodup
  rw [getD_note]
  split
  · rename_i new
    rw [← List.concat_eq_append]
    exact nodup.concat new.2
  · exact nodup

theorem length_writers (key : String) :
    (((writers keys corpus).get? key).getD []).length = (pluginsWith keys corpus key).card := by
  rw [← List.toFinset_card_of_nodup (nodup_writers keys corpus key)]
  congr 1
  ext plugin
  have start : ((Register.get? ([] : Writers) key).getD []) = [] := rfl
  rw [List.mem_toFinset, writers, mem_foldl_writers, start]
  simp

theorem ranks_ranked : Ranks (ranked (writers keys corpus)) (pluginsWith keys corpus) where
  sorted := pairwise_ranked (nodup_names_writers keys corpus)
  mem_iff name n := by
    rw [← Register.get?_eq_some_iff (nodup_names_ranked (nodup_names_writers keys corpus)),
      get?_ranked (nodup_names_writers keys corpus), (filled_writers keys corpus).map_length, length_writers,
      ← Finset.card_pos]
    split
    · rename_i none
      simp [none]
    · rename_i some
      have positive : 0 < (pluginsWith keys corpus name).card := by omega
      simp [positive, eq_comm]

theorem card_pluginsWith_le (key : String) : (pluginsWith keys corpus key).card ≤ corpus.length := by
  have fewer : (having keys corpus key).names.length ≤ corpus.length := by
    rw [Register.names, List.length_map]
    exact List.length_filter_le _ _
  exact (List.toFinset_card_le _).trans fewer

variable {keys corpus}

theorem pluginsWith_perm {reordered : Corpus} (perm : reordered.Perm corpus) :
    pluginsWith keys reordered = pluginsWith keys corpus := by
  funext key
  ext plugin
  simp only [mem_pluginsWith, perm.mem_iff]

end Counting

/-- The plugins that override a class. -/
def classPlugins (corpus : Corpus) (owner : String) : Finset String :=
  (corpus.overriding owner).names.toFinset

/-- The plugins that override a method. -/
def methodPlugins (corpus : Corpus) (signature : String) : Finset String :=
  Register.names (corpus.filter fun entry => signature ∈ Script.signatures entry.2) |>.toFinset

theorem classPlugins_eq (corpus : Corpus) : corpus.classPlugins = pluginsWith classesOf corpus := by
  funext owner
  rw [classPlugins, pluginsWith, having_classesOf]

theorem mem_classPlugins_iff (corpus : Corpus) (owner plugin : String) :
    plugin ∈ corpus.classPlugins owner ↔
      ∃ signature, (Script.Signature.split signature).1 = owner ∧ plugin ∈ corpus.methodPlugins signature := by
  rw [classPlugins_eq, mem_pluginsWith]
  constructor
  · rintro ⟨source, member, has⟩
    obtain ⟨signature, found, rfl⟩ := List.mem_map.mp has
    exact ⟨signature, rfl, (mem_pluginsWith _ _ _ _).mpr ⟨source, member, found⟩⟩
  · rintro ⟨signature, rfl, has⟩
    obtain ⟨source, member, found⟩ := (mem_pluginsWith _ _ _ _).mp has
    exact ⟨source, member, List.mem_map_of_mem found⟩

/-- The counts of a corpus list the classes and the methods that some plugin overrides, each with the number of these
plugins. A method has at most as many as its class, and a class at most as many as there are plugins and as its methods
have together. Scripts in another order give the same two lists. -/
theorem enrichment_counts (corpus : Corpus) (generatedAt : String) :
    let counted := corpus.enrichment generatedAt
    counted.pluginCount = corpus.length ∧
      Ranks counted.classPopularity corpus.classPlugins ∧
      Ranks counted.methodPopularity corpus.methodPlugins ∧
      (∀ signature m, (signature, m) ∈ counted.methodPopularity →
        1 ≤ m ∧ ∃ n, ((Script.Signature.split signature).1, n) ∈ counted.classPopularity ∧ m ≤ n) ∧
      (∀ owner n, (owner, n) ∈ counted.classPopularity →
        n ≤ counted.pluginCount ∧
          n ≤ ((counted.methodPopularity.filter fun entry =>
            (Script.Signature.split entry.1).1 = owner).map Prod.snd).sum) ∧
      ∀ reordered laterAt, reordered.Perm corpus →
        (Corpus.enrichment reordered laterAt).classPopularity = counted.classPopularity ∧
          (Corpus.enrichment reordered laterAt).methodPopularity = counted.methodPopularity := by
  intro counted
  have classes : Ranks counted.classPopularity corpus.classPlugins := by
    rw [classPlugins_eq]
    exact ranks_ranked classesOf corpus
  have methods : Ranks counted.methodPopularity corpus.methodPlugins := ranks_ranked Script.signatures corpus
  refine ⟨rfl, classes, methods, ?_, ?_, ?_⟩
  · intro signature m member
    obtain ⟨⟨plugin, has⟩, rfl⟩ := (methods.mem_iff signature m).mp member
    have subset : corpus.methodPlugins signature ⊆ corpus.classPlugins (Script.Signature.split signature).1 :=
      fun plugin has => (mem_classPlugins_iff _ _ _).mpr ⟨signature, rfl, has⟩
    refine ⟨methods.one_le member, _, (classes.mem_iff _ _).mpr ⟨⟨plugin, subset has⟩, rfl⟩, ?_⟩
    exact_mod_cast Finset.card_le_card subset
  · intro owner n member
    obtain ⟨-, rfl⟩ := (classes.mem_iff owner n).mp member
    constructor
    · rw [classPlugins_eq]
      exact Int.ofNat_le.mpr (card_pluginsWith_le classesOf corpus owner)
    · apply methods.card_le_sum fun signature => (Script.Signature.split signature).1 = owner
      intro plugin has
      obtain ⟨signature, same, found⟩ := (mem_classPlugins_iff _ _ _).mp has
      exact ⟨signature, decide_eq_true same, found⟩
  · intro reordered laterAt perm
    have sameClasses := ranks_ranked classesOf reordered
    have sameMethods := ranks_ranked Script.signatures reordered
    rw [pluginsWith_perm perm] at sameClasses sameMethods
    exact ⟨sameClasses.unique (ranks_ranked classesOf corpus), sameMethods.unique methods⟩

theorem enrichment_counts_seasons :
    let counted := seasons.enrichment ""
    (Script.Signature.split "Map.prototype.setup").1 = "Map" ∧
      ("Map.prototype.setup", 1) ∈ counted.methodPopularity ∧ ("Map", 2) ∈ counted.classPopularity ∧
      seasons.reverse.Perm seasons ∧
      (∃ n, ("Map", n) ∈ counted.classPopularity ∧ 1 ≤ n) ∧
      2 ≤ counted.pluginCount ∧
      2 ≤ ((counted.methodPopularity.filter fun entry =>
        (Script.Signature.split entry.1).1 = "Map").map Prod.snd).sum ∧
      (Corpus.enrichment seasons.reverse "later").classPopularity = counted.classPopularity := by
  intro counted
  obtain ⟨-, classes, methods, ofMethods, ofClasses, ofOrder⟩ := enrichment_counts seasons ""
  have setup : seasons.methodPlugins "Map.prototype.setup" = {"Weather"} := by decide +kernel
  have map : seasons.classPlugins "Map" = {"Weather", "Season"} := by decide +kernel
  have split : (Script.Signature.split "Map.prototype.setup").1 = "Map" := by decide +kernel
  have setupListed : ("Map.prototype.setup", 1) ∈ counted.methodPopularity := by
    rw [methods.mem_iff, setup]
    decide
  have mapListed : ("Map", 2) ∈ counted.classPopularity := by
    rw [classes.mem_iff, map]
    decide
  have above := (ofMethods _ _ setupListed).2
  rw [split] at above
  exact ⟨split, setupListed, mapListed, List.reverse_perm seasons, above, (ofClasses _ _ mapListed).1,
    (ofClasses _ _ mapListed).2, (ofOrder _ "later" (List.reverse_perm seasons)).1⟩

end Corpus

end PluginAudit
