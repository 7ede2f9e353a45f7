import LaserDac.EtherDreamCourse

/-!
The Ether Dream backend's two views of the ring. The one that admits points is never below the ring that the points
meet; the one the adapter sees is at most a point above the ring until the DAC handles another command.
-/

namespace LaserDac.EtherDream

open Runs Wire EtherDreamModel

theorem estimatedFullness_le (estimator : DacRateEstimator) (time : Nat) (pps : UInt32) :
    estimator.estimatedFullness time pps ≤ estimator.inner.fullnessAtAnchor := by
  unfold DacRateEstimator.estimatedFullness StatusDecayEstimator.estimatedFullness
  split
  · split
    · exact le_rfl
    · exact Nat.sub_le _ _
  · exact Nat.zero_le _

namespace Client

variable {setting : Setting} {client : Client EtherDreamModel}

theorem Silent.estimate {estimator : DacRateEstimator} (silent : Silent estimator) (time : Nat) (pps : UInt32) :
    estimator.estimatedFullness time pps = 0 := by
  rcases silent with zero | none
  · have bound := estimatedFullness_le estimator time pps
    omega
  · simp [DacRateEstimator.estimatedFullness, StatusDecayEstimator.estimatedFullness, none]

theorem Based.estimate (based : client.Based) (playing : client.peer.playback = .playing)
    (positive : 0 < client.peer.segRate) {anchor : Nat}
    (start : client.backend.estimator.inner.anchorTime = some anchor) (time : Nat) (pps : UInt32) :
    client.backend.estimator.estimatedFullness time pps =
      client.backend.estimator.inner.fullnessAtAnchor - (time - anchor) * client.peer.segRate.toNat / 1000000000 := by
  have rate := based.rate playing
  have draining := based.draining
  simp only [DacRateEstimator.estimatedFullness, StatusDecayEstimator.estimatedFullness, start, draining, rate,
    gt_iff_lt, positive, if_true, Bool.not_true, Bool.false_eq_true, if_false]

theorem Rest.estimate (rest : client.Rest setting) (pps : UInt32) {time : Nat} (later : client.peer.now ≤ time) :
    client.backend.estimator.estimatedFullness time pps ≤ (client.peer.advanceTo time).ring.length + 1 := by
  have steady := rest.fit.linked.steady
  have after := advanceTo_later steady time
  rcases rest.synced with silent | based
  · rw [silent.estimate]
    exact Nat.zero_le _
  · have bound := estimatedFullness_le client.backend.estimator time pps
    have fullness := based.fullness
    by_cases playing : client.peer.playback = .playing
    · obtain ⟨start, -, positive⟩ := steady.segment playing
      obtain ⟨anchor, known, early⟩ := based.anchor
      have played := (plays_bounds start later).2
      have longer : (time - client.peer.now) * client.peer.segRate.toNat / 1000000000 ≤
          (time - anchor) * client.peer.segRate.toNat / 1000000000 :=
        Nat.div_le_div_right (Nat.mul_le_mul_right _ (by omega))
      rw [based.estimate playing positive known, after.drained playing, List.length_drop]
      unfold nanosPerSec at played
      omega
    · rw [(after.still playing).2]
      omega

end Client

/-- Points are sent right after a check of their room, which their ring keeps to. -/
def Checked : Event EtherDreamModel → List (Event EtherDreamModel) → Prop
  | .handled _ bytes found after, earlier =>
    after.overfullWrites = 0 ∧
      (bytes.head? = some 0x64 → ∃ fullness rest, earlier = .checked fullness :: rest ∧ found.ring.length ≤ fullness)
  | _, _ => True

theorem checked_of_sound {log : List (Event EtherDreamModel)} (sound : Always Sound log)
    (bright : ∀ event ∈ log, Bright event) : Always Checked log := by
  induction log with
  | nil => trivial
  | cons event earlier ih =>
    obtain ⟨lit, before⟩ := List.forall_mem_cons.mp bright
    refine ⟨?_, ih sound.2 before⟩
    cases event with
    | checked | replied => trivial
    | handled =>
      obtain ⟨-, never, admitted⟩ := sound.1
      refine ⟨never, fun isData => ?_⟩
      obtain ⟨fullness, rest, split, bound⟩ := admitted isData
      refine ⟨fullness, rest, split, bound ?_⟩
      rw [lit.1]
      simp

/-- Whatever was called and whatever the delays: points meet no more in the ring than they were admitted for, the ring
is never too full, and until the DAC handles another command the estimate is at most a point above the ring. -/
theorem fullness_sandwich (setting : Setting) (calm : setting.Calm) (profile : FirmwareProfile)
    (honest : profile.Honest) (time : Nat) (calls : List Call) :
    let line := (Line.joined profile time).run setting.env calls
    Always Checked line.socket.log ∧ line.socket.peer.overfullWrites = 0 ∧
      (line.stream.isSome → ∀ (now : Nat) (pps : UInt32), line.socket.peer.now ≤ now →
        line.backend.estimator.estimatedFullness now pps ≤ (line.socket.peer.advanceTo now).ring.length + 1) := by
  intro line
  have resting : line.Resting setting := (Line.joined_resting setting honest time).run calls
  refine ⟨?_, resting.kept.sane.never, fun connected now pps later => ?_⟩
  · exact checked_of_sound resting.kept.sound (resting.kept.calm calm).2.2
  · obtain ⟨stream, open_⟩ := Option.isSome_iff_exists.mp connected
    exact (resting.client stream open_).estimate pps later

/-- Six points, and then one at another rate. -/
def sixAndOne : Line EtherDreamModel :=
  (Line.joined (FirmwareProfile.small 8) 0).run (prompt 100000).env [.write 1000 (blanks 6), .write 50000 (blanks 1)]

theorem fullness_sandwich_two_rates :
    Always Checked sixAndOne.socket.log ∧ sixAndOne.socket.peer.overfullWrites = 0 ∧ sixAndOne.stream.isSome ∧
      sixAndOne.socket.peer.now ≤ 2000000 ∧ sixAndOne.backend.estimator.estimatedFullness 2000000 1000 ≤
        (sixAndOne.socket.peer.advanceTo 2000000).ring.length + 1 := by
  have connected : sixAndOne.stream.isSome := by decide +kernel
  have later : sixAndOne.socket.peer.now ≤ 2000000 := by decide +kernel
  have sandwich := fullness_sandwich (prompt 100000) (fun _ => rfl) (FirmwareProfile.small 8)
    ⟨by decide, by decide, by decide⟩ 0 [.write 1000 (blanks 6), .write 50000 (blanks 1)]
  dsimp only at sandwich
  rw [← sixAndOne] at sandwich
  refine And.imp_right (fun rest => ?_) sandwich
  exact ⟨rest.1, connected, later, rest.2 connected 2000000 1000 later⟩

/-- The DAC at a time at which it has handled the last command and the replies that end the log have not arrived. -/
def unanswered (now : Nat) : List (Event EtherDreamModel) → Option EtherDreamModel
  | .replied time :: earlier => if now < time then unanswered now earlier else none
  | .handled time _ _ after :: _ => if time ≤ now then some (after.advanceTo now) else none
  | _ => none

/-- Six points play at 1000 points a second; another one comes with a switch to 50000 points a second. A tenth of a
millisecond after the switch, with its reply still under way, the estimate is that of the six points and the ring
holds two. -/
theorem estimate_above_before_reply :
    let before := (Line.joined (FirmwareProfile.small 8) 0).run (prompt 100000).env [.write 1000 (blanks 6)]
    let line := before.perform (prompt 100000).env (.write 50000 (blanks 1))
    before.backend.estimator.estimatedFullness 1300000 1000 = 6 ∧
      (unanswered 1300000 line.socket.log).map (fun m => (m.playback, m.ring.length)) = some (.playing, 2) := by
  decide +kernel

end LaserDac.EtherDream
