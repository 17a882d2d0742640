import Mathlib
import PluginAudit.Proofs.Log.Noted
import PluginAudit.Proofs.Value.Writable
import PluginAudit.Settings.Basic

namespace PluginAudit.Settings

open PluginAudit.Log (Noted)

/-- Whether a remark on an entry, if there is one to be made, can be written: it shows the key of an entry that names no
setting, and the value of one that is no choice. -/
def isNoted (entry : Value × Value) : Bool :=
  match Setting.ofKey? entry.1 with
  | none => entry.1.isWritable
  | some setting => setting.choices?.isNone || setting.accepts entry.2 || entry.2.isWritable

def longFault : DataFault :=
  .unwritableInteger Number.digitLimit

def verdict (entries : Value.Entries) : Except Failure Unit :=
  Noted.verdict isNoted longFault entries

section

variable {entry : Value × Value}

theorem exists_remark (source : String) (noted : isNoted entry = true) : ∃ note, remark? source entry = .ok note := by
  unfold isNoted at noted
  unfold remark?
  cases named : Setting.ofKey? entry.1 with
  | none =>
    rw [named] at noted
    simp only [Value.display_of_isWritable noted]
    exact ⟨_, rfl⟩
  | some setting =>
    rw [named] at noted
    dsimp only at noted ⊢
    split
    · exact ⟨none, rfl⟩
    · rename_i choices isChoice _
      split
      · exact ⟨none, rfl⟩
      · rename_i refused
        have writable : entry.2.isWritable = true := by simpa [isChoice, refused] using noted
        simp only [Value.shown_of_isWritable writable]
        exact ⟨_, rfl⟩
    · exact ⟨none, rfl⟩

theorem remark?_of_not_isNoted (source : String) (unnoted : isNoted entry = false) :
    remark? source entry = .error longFault := by
  unfold isNoted at unnoted
  unfold remark?
  cases named : Setting.ofKey? entry.1 with
  | none =>
    rw [named] at unnoted
    simp only [Value.display_of_not_isWritable unnoted]
    rfl
  | some setting =>
    rw [named] at unnoted
    simp only [Bool.or_eq_false_iff, Option.isNone_eq_false_iff] at unnoted
    obtain ⟨⟨limited, refused⟩, long⟩ := unnoted
    dsimp only
    split
    · rename_i isNull
      rw [isNull] at long
      cases long
    · rw [if_neg (Bool.eq_false_iff.mp refused)]
      simp only [Value.shown_of_not_isWritable long]
      rfl
    · rename_i free _
      rw [free] at limited
      cases limited

theorem judges (source : String) : Noted.Judges (remark? source) isNoted longFault :=
  ⟨exists_remark source, remark?_of_not_isNoted source⟩

end

theorem run_update (source : String) (entries : Value.Entries) (settings : Settings) (records : List Log.Record) :
    (ExceptT.run (update source entries)).run (settings, records) =
      (verdict entries, settings.applyAll (entries.takeWhile isNoted),
        records ++ (entries.takeWhile isNoted).filterMap (Noted.note? (remark? source))) :=
  Noted.run_takeAll (judges source) apply entries settings records

end PluginAudit.Settings
