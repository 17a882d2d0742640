import PluginAudit.Popularity.Index
import PluginAudit.Script.Override
import PluginAudit.Value.Naming

namespace PluginAudit

/-- Counts over a corpus, from the most popular to the least. -/
structure Enrichment where
  version : String
  generatedAt : String
  pluginCount : Int
  classPopularity : Register Int
  methodPopularity : Register Int
deriving Repr, DecidableEq

namespace Enrichment

def generatedAtField : FieldName :=
  ⟨"generatedAt", "generated_at"⟩

def pluginCountField : FieldName :=
  ⟨"pluginCount", "plugin_count"⟩

def classPopularityField : FieldName :=
  ⟨"classPopularity", "class_popularity"⟩

def methodPopularityField : FieldName :=
  ⟨"methodPopularity", "method_popularity"⟩

def reader : Reader Enrichment :=
  .record "PopularityEnrichment" fun fields =>
    Enrichment.mk
      <$> Reader.withDefault fields ["version"] .text "1"
      <*> Reader.required fields generatedAtField.both .text
      <*> Reader.required fields pluginCountField.both .int
      <*> Reader.withDefault fields classPopularityField.both (.entries .int) []
      <*> Reader.withDefault fields methodPopularityField.both (.entries .int) []

def counts (register : Register Int) : Value :=
  .record (register.map fun entry => (entry.1, .int entry.2))

def toValue (naming : Naming) (enrichment : Enrichment) : Value :=
  .record [
    ("version", .text enrichment.version),
    (generatedAtField.under naming, .text enrichment.generatedAt),
    (pluginCountField.under naming, .int enrichment.pluginCount),
    (classPopularityField.under naming, counts enrichment.classPopularity),
    (methodPopularityField.under naming, counts enrichment.methodPopularity)]

end Enrichment

abbrev Corpus := Register String

namespace Corpus

abbrev Writers := Register (List String)

def note (writers : Writers) (plugin key : String) : Writers :=
  writers.alter key fun plugins =>
    let plugins := plugins.getD []
    if plugin ∈ plugins then plugins else plugins ++ [plugin]

def writers (keys : String → List String) (corpus : Corpus) : Writers :=
  corpus.foldl (fun found entry => (keys entry.2).foldl (note · entry.1) found) []

def le (a b : String × Int) : Bool :=
  b.2 < a.2 || (a.2 == b.2 && a.1 ≤ b.1)

def ranked (writers : Writers) : Register Int :=
  (writers.map fun entry => (entry.1, (entry.2.length : Int))).mergeSort le

def classesOf (source : String) : List String :=
  (Script.signatures source).map fun signature => (Script.Signature.split signature).1

def enrichment (corpus : Corpus) (generatedAt : String) : Enrichment :=
  { version := "1"
    generatedAt
    pluginCount := corpus.length
    classPopularity := ranked (writers classesOf corpus)
    methodPopularity := ranked (writers Script.signatures corpus) }

end Corpus

def Popularity.ofCorpus (corpus : Corpus) : Popularity :=
  ⟨(corpus.enrichment "").classPopularity.map fun entry => (entry.1, .whole entry.2)⟩

end PluginAudit
