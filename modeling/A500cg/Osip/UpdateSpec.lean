import A500cg.Osip.Update

/-! What each device operation of the OSIP code can do, whatever the system
calls answer: one lemma for each of them, which later proofs cite instead of
unfolding the operation. -/

namespace A500cg.Osip

open Lib Flash

def directory (w : World) : OSIPHeader := OSIPHeader.ofBytes w.content

/-- What `read_OSIP` checks of it. -/
def Accepted (w : World) : Prop := getOsipCrc (directory w) = 0

instance (w : World) : Decidable (Accepted w) :=
  inferInstanceAs (Decidable (getOsipCrc (directory w) = 0))

private theorem require_accepted (w : World) (accepted : Accepted w) :
    Outcome.require (getOsipCrc (OSIPHeader.ofBytes w.content) = 0) OsipError.corrupt = .ok () :=
  if_pos accepted

private theorem require_corrupt (w : World) (corrupt : ¬ Accepted w) :
    Outcome.require (getOsipCrc (OSIPHeader.ofBytes w.content) = 0) OsipError.corrupt =
      .error .corrupt :=
  if_neg corrupt

theorem directory_same {w w' : World} (same : w.Same w') : directory w' = directory w := by
  rw [directory, directory, same.content_eq]

theorem directory_of_content {w w' : World}
    (same : ∀ a < headerBytes, w'.content a = w.content a) : directory w' = directory w := by
  apply OSIPHeader.ofBytes_of_byte
  intro i bound
  rw [same i bound]
  exact (OSIPHeader.byte_ofBytes w.content i bound).symm

theorem readOSIP_spec (w : World) :
    ∃ middle, w.Same middle ∧
      ((Accepted w ∧ readOSIP w = (.ok (directory w), middle)) ∨
        ∃ cause : OsipError, cause.isValidation = false ∧ (cause = .corrupt → ¬ Accepted w) ∧
          readOSIP w = (.error cause, middle)) := by
  rcases call_spec OsipError.openFailed w with ⟨opened, same, opens | opens⟩
  · rcases readAt_spec OsipError.readFailed 0 opened with ⟨middle, same', reads | reads⟩
    · refine ⟨middle, same.trans same', ?_⟩
      have buffer : (fun i => opened.content (0 + i)) = w.content := by
        funext i
        rw [Nat.zero_add, same.content_eq]
      rw [readOSIP, bind_of_ok opens, bind_of_ok reads, buffer]
      by_cases good : Accepted w
      · left
        refine ⟨good, ?_⟩
        rw [require_accepted w good]
        rfl
      · right
        refine ⟨.corrupt, rfl, fun _ => good, ?_⟩
        rw [require_corrupt w good]
        rfl
    · refine ⟨middle, same.trans same', .inr ⟨.readFailed, rfl, by simp, ?_⟩⟩
      rw [readOSIP, bind_of_ok opens, bind_of_error reads]
  · refine ⟨opened, same, .inr ⟨.openFailed, rfl, by simp, ?_⟩⟩
    rw [readOSIP, bind_of_error opens]

theorem readOSIP_healthy (w : World) (healthy : Healthy w) (accepted : Accepted w) :
    readOSIP w = (.ok (directory w), w) := by
  have buffer : (fun i => w.content (0 + i)) = w.content := by
    funext i
    rw [Nat.zero_add]
  rw [readOSIP, bind_of_ok (call_healthy _ w healthy), bind_of_ok (readAt_healthy _ _ w healthy),
    buffer, require_accepted w accepted]
  rfl

theorem writeOSIP_spec (osip : OSIPHeader) (w : World) :
    ∃ done middle, done ≤ headerBytes ∧ middle.initial = w.initial ∧
      middle.writes = w.writes ++ writesAt 0 done osip.seal.byte ∧
      ((writeOSIP osip w = (.ok (), middle) ∧ done = headerBytes) ∨
        ∃ cause : OsipError, cause.isValidation = false ∧ cause ≠ .corrupt ∧
          writeOSIP osip w = (.error cause, middle)) := by
  rcases call_spec OsipError.openFailed w with ⟨opened, same, opens | opens⟩
  · obtain ⟨done, middle, bound, initial, log, result⟩ :=
      writeAt_spec OsipError.writeFailed 0 headerBytes osip.seal.byte opened
    refine ⟨done, middle, bound, initial.trans same.1, by rw [log, same.2], ?_⟩
    rw [writeOSIP, bind_of_ok opens]
    rcases result with whole | failed
    · exact .inl whole
    · exact .inr ⟨.writeFailed, rfl, by simp, failed⟩
  · refine ⟨0, opened, Nat.zero_le _, same.1, by simp [writesAt, same.2], ?_⟩
    exact .inr ⟨.openFailed, rfl, by simp, by rw [writeOSIP, bind_of_error opens]⟩

theorem writeOSIP_ok {osip : OSIPHeader} {w w' : World} {value : Unit}
    (ran : writeOSIP osip w = (.ok value, w')) :
    w'.initial = w.initial ∧ w'.writes = w.writes ++ writesAt 0 headerBytes osip.seal.byte := by
  obtain ⟨done, middle, _, initial, log, ⟨result, whole⟩ | ⟨cause, _, _, result⟩⟩ :=
    writeOSIP_spec osip w
  · rw [ran] at result
    cases result
    exact ⟨initial, by rw [log, whole]⟩
  · rw [ran] at result
    cases result

theorem writeOSIP_content {osip : OSIPHeader} {w w' : World} {value : Unit}
    (ran : writeOSIP osip w = (.ok value, w')) :
    w'.content = overlay w.content 0 headerBytes osip.seal.byte := by
  rcases writeOSIP_ok ran with ⟨initial, log⟩
  exact World.content_of_log initial log

theorem directory_committed {osip : OSIPHeader} {w w' : World} {value : Unit}
    (ran : writeOSIP osip w = (.ok value, w')) : directory w' = osip.seal := by
  rw [directory, writeOSIP_content ran]
  apply OSIPHeader.ofBytes_of_byte
  intro i bound
  have inside := overlay_inside w.content 0 headerBytes osip.seal.byte i bound
  rwa [Nat.zero_add] at inside

theorem accepted_committed {osip : OSIPHeader} {w w' : World} {value : Unit}
    (ran : writeOSIP osip w = (.ok value, w')) : Accepted w' := by
  rw [Accepted, directory_committed ran]
  exact getOsipCrc_seal osip

theorem writeOSIP_healthy (osip : OSIPHeader) (w : World) (healthy : Healthy w) :
    writeOSIP osip w = (.ok (), w.store (writesAt 0 headerBytes osip.seal.byte)) := by
  rw [writeOSIP, bind_of_ok (call_healthy _ w healthy), writeAt_healthy _ _ _ _ w healthy]

theorem writeOSIP_commits (osip : OSIPHeader) (w : World) (healthy : Healthy w) :
    ∃ w', writeOSIP osip w = (.ok (), w') ∧ Healthy w' ∧ directory w' = osip.seal ∧ Accepted w' :=
  ⟨_, writeOSIP_healthy osip w healthy, healthy,
    directory_committed (writeOSIP_healthy osip w healthy),
    accepted_committed (writeOSIP_healthy osip w healthy)⟩

/-- The four bytes of the backup signature were overwritten, in part or whole, or
not at all; only a present signature is overwritten. -/
def BackupDestroyed (before after : World) : Prop :=
  after.initial = before.initial ∧ ∃ done ≤ 4,
    after.writes = before.writes ++ writesAt OSIP_BACKUP_OFFSET done (fun _ => 0xff) ∧
    (done ≠ 0 → le32 before.content OSIP_BACKUP_OFFSET = OSIP_SIG)

theorem World.Same.backupDestroyed {w w' : World} (same : w.Same w') : BackupDestroyed w w' :=
  ⟨same.1, 0, Nat.zero_le _, by simp [writesAt, same.2], by simp⟩

theorem BackupDestroyed.of_same {w middle after : World} (same : w.Same middle)
    (destroyed : BackupDestroyed middle after) : BackupDestroyed w after := by
  rcases destroyed with ⟨initial, done, bound, log, present⟩
  refine ⟨initial.trans same.1, done, bound, by rw [log, same.2], ?_⟩
  rwa [same.content_eq] at present

theorem BackupDestroyed.touches {w after : World} (destroyed : BackupDestroyed w after) :
    w.Touches (fun a => 224 ≤ a ∧ a < 228) after := by
  rcases destroyed with ⟨initial, done, bound, log, _⟩
  refine ⟨initial, _, log, ?_⟩
  intro store member
  have range := mem_writesAt _ _ _ _ member
  change 224 ≤ store.addr ∧ store.addr < 224 + done at range
  omega

theorem BackupDestroyed.directory_eq {w w' : World} (destroyed : BackupDestroyed w w') :
    directory w' = directory w := by
  apply directory_of_content
  intro a header
  apply destroyed.touches.content_eq
  simp only [headerBytes] at header
  omega

private theorem read32_spec (addr : Nat) (w : World) :
    ∃ middle, w.Same middle ∧
      (read32 addr w = (.ok (le32 w.content addr), middle) ∨
        read32 addr w = (.error .readFailed, middle)) := by
  rcases readAt_spec OsipError.readFailed addr w with ⟨middle, same, reads | reads⟩
  · refine ⟨middle, same, .inl ?_⟩
    rw [read32, bind_of_ok reads]
    exact congrArg (fun word => (Outcome.ok word, middle))
      (le32_congr _ _ _ _ (fun k _ => by simp))
  · refine ⟨middle, same, .inr ?_⟩
    rw [read32, bind_of_error reads]

theorem destroyTheOsipBackup_spec (w : World) :
    ∃ result after, attempt destroyTheOsipBackup w = (.ok result, after) ∧
      BackupDestroyed w after := by
  rcases call_spec OsipError.openFailed w with ⟨opened, same, opens | opens⟩
  · rcases read32_spec OSIP_BACKUP_OFFSET opened with ⟨middle, same', reads | reads⟩
    · by_cases present : le32 opened.content OSIP_BACKUP_OFFSET = OSIP_SIG
      · obtain ⟨done, after, bound, initial, log, writes⟩ :=
          writeAt_spec OsipError.writeFailed OSIP_BACKUP_OFFSET 4 (fun _ => 0xff) middle
        have ignored : ∃ value, attempt (writeAt OsipError.writeFailed OSIP_BACKUP_OFFSET 4
            (fun _ => 0xff)) middle = (.ok value, after) := by
          rcases writes with ⟨writes, _⟩ | writes
          · exact ⟨_, attempt_of_ok writes⟩
          · exact ⟨_, attempt_of_error writes⟩
        rcases ignored with ⟨value, ignored⟩
        have ran : destroyTheOsipBackup w = (.ok (), after) := by
          rw [destroyTheOsipBackup, bind_of_ok opens, bind_of_ok reads, if_pos present,
            bind_of_ok ignored, pure_apply]
        refine ⟨_, after, attempt_of_ok ran, ?_⟩
        refine BackupDestroyed.of_same (same.trans same') ⟨initial, done, bound, log, ?_⟩
        intro _
        rw [same'.content_eq]
        exact present
      · have ran : destroyTheOsipBackup w = (.ok (), middle) := by
          rw [destroyTheOsipBackup, bind_of_ok opens, bind_of_ok reads, if_neg present,
            pure_apply]
        exact ⟨_, middle, attempt_of_ok ran, World.Same.backupDestroyed (same.trans same')⟩
    · have ran : destroyTheOsipBackup w = (.error .readFailed, middle) := by
        rw [destroyTheOsipBackup, bind_of_ok opens, bind_of_error reads]
      exact ⟨_, middle, attempt_of_error ran, World.Same.backupDestroyed (same.trans same')⟩
  · have ran : destroyTheOsipBackup w = (.error .openFailed, opened) := by
      rw [destroyTheOsipBackup, bind_of_error opens]
    exact ⟨_, opened, attempt_of_error ran, World.Same.backupDestroyed same⟩

def afterBackup (w : World) : World :=
  if le32 w.content OSIP_BACKUP_OFFSET = OSIP_SIG then
    w.store (writesAt OSIP_BACKUP_OFFSET 4 (fun _ => 0xff))
  else w

theorem destroyTheOsipBackup_healthy (w : World) (healthy : Healthy w) :
    attempt destroyTheOsipBackup w = (.ok (some ()), afterBackup w) := by
  have reads : read32 OSIP_BACKUP_OFFSET w = (.ok (le32 w.content OSIP_BACKUP_OFFSET), w) := by
    rw [read32, bind_of_ok (readAt_healthy _ _ w healthy)]
    exact congrArg (fun word => (Outcome.ok word, w)) (le32_congr _ _ _ _ (fun k _ => by simp))
  apply attempt_of_ok
  rw [destroyTheOsipBackup, bind_of_ok (call_healthy _ w healthy), bind_of_ok reads, afterBackup]
  by_cases present : le32 w.content OSIP_BACKUP_OFFSET = OSIP_SIG
  · rw [if_pos present, if_pos present,
      bind_of_ok (attempt_of_ok (writeAt_healthy _ _ _ _ w healthy)), pure_apply]
  · rw [if_neg present, if_neg present, pure_apply]

theorem afterBackup_healthy (w : World) (healthy : Healthy w) : Healthy (afterBackup w) := by
  simp only [afterBackup]
  split
  · exact healthy
  · exact healthy

end A500cg.Osip
