import VmLifecycle.Gateway.Script
import VmLifecycle.Proofs.Stop.Course
import VmLifecycle.Proofs.Text.Lines
import VmLifecycle.Proofs.Text.Lossy

namespace VmLifecycle

/-- The bytes of a word between white space. -/
def IsSurrounded (word : String) (bytes : Bytes) : Prop :=
  ∃ before after, AreWhiteSpace before ∧ AreWhiteSpace after ∧
    bytes = Utf8.encodeChars before ++ Utf8.encode word ++ Utf8.encodeChars after

theorem AreBlanks.replacement_not_mem {cs : List Char} (hcs : AreBlanks cs) :
    Utf8.replacement ∉ cs := by
  intro hmem
  have hblank := hcs _ hmem
  revert hblank
  decide

namespace IsSurrounded

theorem exists_text {word : String} {bytes : Bytes} (surrounded : IsSurrounded word bytes) :
    ∃ text, Utf8.encode text = bytes := by
  obtain ⟨before, after, -, -, rfl⟩ := surrounded
  exact ⟨String.ofList (before ++ word.toList ++ after),
    by simp [Utf8.encodeChars, Utf8.encode]⟩

theorem empty_iff {bytes : Bytes} :
    IsSurrounded "" bytes ↔ ∃ blanks, AreWhiteSpace blanks ∧ bytes = Utf8.encodeChars blanks := by
  constructor
  · rintro ⟨before, after, hbefore, hafter, rfl⟩
    refine ⟨before ++ after, ?_, ?_⟩
    · rw [← areBlanks_iff] at hbefore hafter ⊢
      exact hbefore.append hafter
    · simp [Utf8.encodeChars, Utf8.encode]
  · rintro ⟨blanks, hblanks, rfl⟩
    exact ⟨blanks, [], hblanks, areBlanks_iff.mp areBlanks_nil,
      by simp [Utf8.encodeChars, Utf8.encode]⟩

end IsSurrounded

namespace Status

theorem classify_eq_stopped_iff {text : String} :
    classify text = .stopped ↔ text = "Stopped" := by
  unfold classify
  split_ifs <;> simp [*]

theorem classify_eq_nonexistent_iff {text : String} :
    classify text = .nonexistent ↔ text = "" := by
  unfold classify
  split_ifs <;> simp [*]

theorem classify_eq_unrecognized_iff {text : String} :
    classify text = .unrecognized ↔ text ≠ "Running" ∧ text ≠ "Stopped" ∧ text ≠ "" := by
  unfold classify
  split_ifs <;> simp [*]

end Status

namespace Probe

theorem shown_eq_iff {bytes : Bytes} {word : String}
    (htrimmed : trimChars word.toList = word.toList) (hclean : Utf8.replacement ∉ word.toList) :
    shown bytes = word ↔ IsSurrounded word bytes := by
  have hchars : shown bytes = word ↔
      trimChars (Utf8.decodeLossyChars bytes) = word.toList := by
    rw [shown, trim, Utf8.decodeLossy, String.toList_ofList, ← String.toList_inj,
      String.toList_ofList]
  rw [hchars, trimChars_eq_iff htrimmed]
  apply exists₂_congr
  intro before after
  rw [areBlanks_iff.symm, areBlanks_iff.symm]
  refine and_congr_right fun hbefore => and_congr_right fun hafter => ?_
  have htext : Utf8.replacement ∉ before ++ word.toList ++ after := by
    simp [hbefore.replacement_not_mem, hafter.replacement_not_mem, hclean]
  rw [Utf8.decodeLossyChars_eq_iff htext]
  simp [Utf8.encodeChars, Utf8.encode]

theorem shown_eq_running_iff {bytes : Bytes} :
    shown bytes = "Running" ↔ IsSurrounded "Running" bytes :=
  shown_eq_iff (by decide) (by decide)

/-- A probe that is answered tells the state by the bytes alone: the two words and nothing at all
stand for the known states, each between white space, and all else is unrecognized. -/
theorem run_status_of_bytes (probe : Probe) (gateway : Gateway σ) (state : σ) {bytes : Bytes}
    (hanswer : (gateway.outputOf
      ["ls", "-f", "\x7b\x7b.Status\x7d\x7d", probe.instanceName.text] state).1 = .ok bytes) :
    ∃ status, (run probe gateway state).result = .ok status ∧
      (status = .running ↔ IsSurrounded "Running" bytes) ∧
      (status = .stopped ↔ IsSurrounded "Stopped" bytes) ∧
      (status = .nonexistent ↔
        ∃ blanks, AreWhiteSpace blanks ∧ bytes = Utf8.encodeChars blanks) ∧
      (status = .unrecognized ↔
        ¬IsSurrounded "Running" bytes ∧ ¬IsSurrounded "Stopped" bytes ∧
          ¬∃ blanks, AreWhiteSpace blanks ∧ bytes = Utf8.encodeChars blanks) ∧
      ((∀ text, Utf8.encode text ≠ bytes) → status = .unrecognized) := by
  have hrunning : shown bytes = "Running" ↔ IsSurrounded "Running" bytes :=
    shown_eq_running_iff
  have hstopped : shown bytes = "Stopped" ↔ IsSurrounded "Stopped" bytes :=
    shown_eq_iff (by decide) (by decide)
  have hnothing : shown bytes = "" ↔
      ∃ blanks, AreWhiteSpace blanks ∧ bytes = Utf8.encodeChars blanks :=
    (shown_eq_iff (by decide) (by decide)).trans IsSurrounded.empty_iff
  have hresult : (run probe gateway state).result = .ok (Status.classify (shown bytes)) := by
    rw [run_of_ok hanswer]
  refine ⟨_, hresult, ?_, ?_, ?_, ?_, ?_⟩
  · exact Status.classify_eq_running_iff.trans hrunning
  · exact Status.classify_eq_stopped_iff.trans hstopped
  · exact Status.classify_eq_nonexistent_iff.trans hnothing
  · rw [Status.classify_eq_unrecognized_iff, ne_eq, ne_eq, ne_eq, hrunning, hstopped, hnothing]
  · intro hnone
    have hunread : ∀ word, ¬IsSurrounded word bytes := by
      intro word surrounded
      obtain ⟨text, htext⟩ := surrounded.exists_text
      exact hnone text htext
    apply Status.classify_eq_unrecognized_iff.mpr
    refine ⟨?_, ?_, ?_⟩
    · exact fun hshown => hunread "Running" (hrunning.mp hshown)
    · exact fun hshown => hunread "Stopped" (hstopped.mp hshown)
    · exact fun hshown => hunread "" (IsSurrounded.empty_iff.mpr (hnothing.mp hshown))

def paddedAnswer : Bytes :=
  Utf8.encode "\u00a0Running\r\n"

def paddedScript : Script.State where
  expected := [⟨args .standard, .output (.ok paddedAnswer)⟩]

theorem padded_answer_is_running :
    (Script.gateway.outputOf
        ["ls", "-f", "\x7b\x7b.Status\x7d\x7d", InstanceName.standard.text]
        paddedScript).1 = .ok paddedAnswer ∧
      (run ⟨.standard⟩ Script.gateway paddedScript).result = .ok .running := by
  have hanswer : (Script.gateway.outputOf
      ["ls", "-f", "\x7b\x7b.Status\x7d\x7d", InstanceName.standard.text]
      paddedScript).1 = .ok paddedAnswer := rfl
  obtain ⟨status, hresult, hrunning, -⟩ :=
    run_status_of_bytes ⟨.standard⟩ Script.gateway paddedScript hanswer
  have hpadded : IsSurrounded "Running" paddedAnswer :=
    ⟨['\u00a0'], ['\r', '\n'], by simp [AreWhiteSpace, whiteSpace],
      by simp [AreWhiteSpace, whiteSpace], by decide⟩
  rw [hresult, hrunning.mpr hpadded]
  exact ⟨hanswer, rfl⟩

end Probe

end VmLifecycle
