import Mathlib
import PluginAudit.Proofs.Popularity.Corpus
import PluginAudit.Proofs.Popularity.Forms
import PluginAudit.Proofs.Script.Signature

namespace PluginAudit

namespace Script

def Overrides (source owner : String) : Prop :=
  ∃ method, Signature.make owner method ∈ signatures source

theorem mem_classesOf_iff (source owner : String) : owner ∈ Corpus.classesOf source ↔ Overrides source owner := by
  constructor
  · intro member
    obtain ⟨signature, found, rfl⟩ := List.mem_map.mp member
    obtain ⟨owner, method, ownerWord, _, rfl⟩ := exists_of_mem_signatures found
    refine ⟨method, ?_⟩
    rwa [Signature.split_make ownerWord.not_dot]
  · rintro ⟨method, found⟩
    obtain ⟨first, last, firstWord, lastWord, same⟩ := exists_of_mem_signatures found
    have owner := Signature.owner_of_make firstWord.not_dot lastWord.not_dot same
    refine List.mem_map.mpr ⟨_, found, ?_⟩
    rw [same, Signature.split_make firstWord.not_dot, owner]

instance (source owner : String) : Decidable (Overrides source owner) :=
  decidable_of_iff _ (mem_classesOf_iff source owner)

end Script

namespace Enrichment

theorem entries?_toValue (enrichment : Enrichment) (naming : Naming) :
    ∃ entries, (enrichment.toValue naming).entries? = some entries ∧
      Popularity.classes entries = enrichment.classPopularity.map fun entry => (.text entry.1, .int entry.2) := by
  cases naming with
  | camel => exact ⟨_, rfl, List.map_map⟩
  | lowLine => exact ⟨_, rfl, List.map_map⟩

end Enrichment

namespace Popularity

theorem run_ofData_toValue {enrichment : Enrichment} (nodup : enrichment.classPopularity.names.Nodup) (naming : Naming) :
    (ofData (enrichment.toValue naming)).run =
      (.ok ⟨enrichment.classPopularity.map fun entry => (entry.1, .whole entry.2)⟩, []) := by
  obtain ⟨entries, found, held⟩ := enrichment.entries?_toValue naming
  have holds : Holds entries (enrichment.classPopularity.map fun entry => (entry.1, .whole entry.2)) := by
    rw [Holds, held, List.map_map, List.map_map]
    rfl
  have names := Register.names_map Score.whole enrichment.classPopularity
  exact holds.run_ofData found (names ▸ nodup)

end Popularity

namespace Corpus

/-- The scripts that override a class. -/
def overriding (corpus : Corpus) (owner : String) : Corpus :=
  corpus.filter fun entry => Script.Overrides entry.2 owner

theorem having_classesOf (corpus : Corpus) (owner : String) : having classesOf corpus owner = corpus.overriding owner :=
  List.filter_congr fun entry _ => by simp [Script.mem_classesOf_iff]

theorem score_ofCorpus {corpus : Corpus} (nodup : corpus.names.Nodup) (owner : String) :
    (Popularity.ofCorpus corpus).score owner = .whole (corpus.overriding owner).length := by
  rw [Popularity.score, Popularity.ofCorpus, Register.get?_map Score.whole, enrichment, get?_ranked_writers _ nodup,
    having_classesOf]
  split
  · rename_i none
    simp [none]
  · rfl

theorem severity_iff {corpus : Corpus} (nodup : corpus.names.Nodup) {plugins : List Plugin}
    (valid : ∀ plugin ∈ plugins, plugin.Valid) (limit : Exact) {conflict : Conflict}
    (member : conflict ∈ (ConflictReport.ofPlugins plugins (.ofCorpus corpus) limit).conflicts) :
    conflict.severity = .warning ↔ limit.le (.ofInt (corpus.overriding conflict.className).length) = true := by
  have graded := ((ConflictReport.mem_conflicts_iff valid (.ofCorpus corpus) limit conflict).mp member).2
  have reached := Conflict.severity_graded (.ofCorpus corpus) limit conflict.method
    ((overriders plugins conflict.method).map (·.name))
  rw [← graded] at reached
  rw [reached]
  change limit.le ((Popularity.ofCorpus corpus).score conflict.className).exact = true ↔ _
  rw [score_ofCorpus nodup]
  rfl

/-- The document that counts are written to holds, under either naming, the popularity that the corpus gives. With it, a
conflict is a warning if as many scripts as the threshold says override its class. -/
theorem enrichment_feeds_back {corpus : Corpus} (nodup : corpus.names.Nodup) (generatedAt : String) (naming : Naming) :
    (Popularity.ofData ((corpus.enrichment generatedAt).toValue naming)).run = (.ok (.ofCorpus corpus), []) ∧
      ∀ headers plugins threshold limit, List.Forall₂ Header.Accepted headers plugins →
        Value.number? threshold = some limit →
          ∃ popularity records report,
            (Popularity.ofOptionalData ((corpus.enrichment generatedAt).toValue naming)).run = (.ok popularity, records) ∧
            ConflictReport.detect plugins popularity threshold = .ok report ∧
            ∀ conflict ∈ report.conflicts, conflict.severity = .warning ↔
              limit.le (.ofInt (corpus.overriding conflict.className).length) = true := by
  have read : (Popularity.ofData ((corpus.enrichment generatedAt).toValue naming)).run = (.ok (.ofCorpus corpus), []) :=
    Popularity.run_ofData_toValue (nodup_names_ranked (nodup_names_writers classesOf corpus)) naming
  refine ⟨read, ?_⟩
  intro headers plugins threshold limit accepted numeric
  have valid := Header.valid_of_accepted accepted
  exact ⟨_, _, _, read, ConflictReport.detect_of_number numeric plugins _, fun _ => severity_iff nodup valid limit⟩

theorem enrichment_feeds_back_seasons :
    let document := (seasons.enrichment "").toValue .lowLine
    seasons.names.Nodup ∧ (Popularity.ofData document).run = (.ok (.ofCorpus seasons), []) ∧
      List.Forall₂ Header.Accepted (ConflictReport.weatherData.map .data) ConflictReport.weatherPlugins ∧
      Value.number? (.int 2) = some (.ofInt 2) ∧
      ∃ popularity records report, (Popularity.ofOptionalData document).run = (.ok popularity, records) ∧
        ConflictReport.detect ConflictReport.weatherPlugins popularity (.int 2) = .ok report ∧
        ∀ conflict ∈ report.conflicts, conflict.severity = .warning ↔
          (Exact.ofInt 2).le (.ofInt (seasons.overriding conflict.className).length) = true := by
  have nodup : seasons.names.Nodup := by decide
  obtain ⟨read, graded⟩ := enrichment_feeds_back nodup "" .lowLine
  exact ⟨nodup, read, ConflictReport.accepted_weather, rfl, graded _ _ _ _ ConflictReport.accepted_weather rfl⟩

end Corpus

end PluginAudit
