import InitPad.Hosting.HostsRules

/-!
# InitPad.Hosting.Removal

What the removal of containers and of directories over SFTP leaves. Both drop most failures, so
that what they leave depends on which of their calls were carried out.
-/

namespace InitPad.Hosting

open Store Interleave Prog

variable {α : Type} {m m' m₁ : HostsMoment} {rest rest₁ rest₂ : List HostsEvent}

/-- Calls that neither change a container or a file nor list a directory. -/
def Stmt.aside {β : Type} : Stmt β → Prop
  | .ping | .inspectImage _ | .removeImage _ | .listImages | .listContainers | .connect
  | .openSftp | .randomText => True
  | _ => False

theorem aside_writes {β : Type} {e : Stmt β} (h : e.aside) : e.writes = [] := by
  cases e <;> first | rfl | cases h

theorem aside_keeps {β : Type} {e : Stmt β} (h : e.aside) : e.keepsContainers = true := by
  cases e <;> first | rfl | cases h

theorem clear_of_aside {p : OnHosts α} {r : Except Failure α} {q : Path}
    (hp : p.Only fun e => e.aside) (h : Ends p m r m') :
    m'.state.files.clear q = m.state.files.clear q := by
  refine clear_after (hp.mono fun e he w hw => ?_) h
  rw [aside_writes he] at hw
  cases hw

theorem succeeds_only {P : ∀ {γ : Type}, Stmt γ → Prop} {p : OnHosts α} (hp : p.Only P) :
    (succeeds p).Only P := (hp.bind fun _ => .ret _).tryCatch fun _ => .ret _

theorem pruneUnusedRepositoryImages_aside (ref : String) :
    (pruneUnusedRepositoryImages ref).Only fun e => e.aside := by
  unfold pruneUnusedRepositoryImages
  split
  · exact .ret _
  · refine .ignoreError (.bind (.await trivial) fun _ => .bind (.await trivial) fun _ => ?_)
    exact .forEach (fun _ => .ignoreError (.await trivial)) _

theorem cleanupImage_aside (ref : String) : (cleanupImage ref).Only fun e => e.aside := by
  refine .bind (succeeds_only (.await trivial)) fun available => ?_
  cases available with
  | false => exact .ret _
  | true =>
    exact .bind (.ignoreError (.await trivial)) fun _ => pruneUnusedRepositoryImages_aside ref

theorem releaseImage_aside (ref : Option String) :
    (DeploymentService.releaseImage ref).Only fun e => e.aside := by
  unfold DeploymentService.releaseImage
  split
  · exact cleanupImage_aside _
  · exact .ret _

def Belongs (input : TeardownInput) (c : Container) : Prop :=
  c.spec.name ∈ DockerProvider.containerNames input.projectName input.env input.allocation ∨
    c.spec.labels.managed = true ∧ c.spec.labels.project = input.projectName ∧
      c.spec.labels.environment = input.env

/-- Where a deployment publishes, uploads and keeps its data. -/
def canonicalPaths (cfg : EffCfg) (slug : String) : List Path :=
  if cfg.custom then
    [SftpProvider.linkPath cfg slug, SftpProvider.stagingPath cfg slug,
      SftpProvider.archivePath cfg slug, SftpProvider.dataPath cfg slug]
  else [SftpProvider.linkPath cfg slug, SftpProvider.releasesPath cfg slug]

/-- No container of the environment exists, or nothing is left of its files. -/
def Gone (config : ProviderConfig) (input : TeardownInput) (h : Hosts) : ProviderKind → Prop
  | .docker => ∀ c ∈ h.docker.containers, ¬ Belongs input c
  | .sftp => ∀ p ∈ canonicalPaths (SftpProvider.eff config input.connection input.allocation)
      (SftpProvider.slug input.projectName input.env), h.files.clear p = true

theorem removeManagedContainers_keeps (projectName : String) (env : EnvName) :
    (removeManagedContainers projectName env).Only fun e => e.keepsContainers = true :=
  .ignoreError (.bind (.await rfl) fun _ => .forEach (fun _ => .ignoreError (.await rfl)) _)

theorem docker_teardown_keeps (config : ProviderConfig) (depth : Nat) (input : TeardownInput) :
    (DeploymentService.teardown config depth input .docker).Only
      fun e => e.keepsContainers = true := by
  refine .ensure (.bind (.bind (succeeds_only (.await rfl)) fun available => ?_) fun _ => .ret _)
    ((releaseImage_aside input.imageRef).mono fun _ => aside_keeps)
  cases available with
  | false => exact .ret _
  | true =>
    refine .bind (.bind (.forEach (fun _ => .ignoreError (.await rfl)) _) fun _ =>
      removeManagedContainers_keeps _ _) fun _ => .ignoreError (.await rfl)

/-- Every container of the environment was hit by a removal. -/
def DockerReleased (input : TeardownInput) (h : Hosts) (rest : List HostsEvent) : Prop :=
  ∀ c ∈ h.docker.containers, Belongs input c → Removed rest c

theorem docker_empties {config : ProviderConfig} {depth : Nat} {input : TeardownInput}
    {r : Except Failure (Option String)}
    (h : Ends (DeploymentService.teardown config depth input .docker) m r m')
    (hrest : m'.history = m.history ++ rest) :
    Gone config input m'.state .docker ↔ DockerReleased input m.state rest := by
  have hafter := containers_after (docker_teardown_keeps config depth input) h hrest
  constructor
  · intro hgone c hc hbelongs
    by_contra hkept
    exact hgone c ((hafter c).mpr ⟨hc, hkept⟩) hbelongs
  · intro hreleased c hc hbelongs
    obtain ⟨hbefore, hkept⟩ := (hafter c).mp hc
    exact hkept (hreleased c hbefore hbelongs)

/-! ## Directories removed over SFTP -/

/-- The directory that a call lists. -/
def Stmt.lists {β : Type} : Stmt β → Option Path
  | .readdir p => some p
  | _ => none

/-- Calls of `sftpRmrf` on `q`. -/
def Stmt.removal (q : Path) {β : Type} : Stmt β → Prop
  | .readdir p | .unlink p | .rmdir p => q <+: p
  | _ => False

theorem sftpRmrf_removal (q : Path) : ∀ (depth : Nat) {p : Path}, q <+: p →
    (sftpRmrf depth p).Only fun e => e.removal q
  | 0, _, _ => .ret _
  | depth + 1, p, hp => by
    refine .bind (.tryCatch (.bind (.await hp) fun _ => .ret _) fun error => ?_) fun entries => ?_
    · split <;> exact .ret _
    · cases entries with
      | none => exact .ret _
      | some entries =>
        refine .bind (.forEach (fun e => ?_) _) fun _ => .await hp
        split
        · exact sftpRmrf_removal q depth (hp.trans (List.prefix_append _ _))
        · exact .await (hp.trans (List.prefix_append _ _))

theorem removal_writes {q p : Path} (hapart : Tree.Apart p q) {β : Type} {e : Stmt β}
    (he : e.removal q) : ∀ w ∈ e.writes, ∀ x, p <+: x → ¬ w.Covers x := by
  cases e with
  | unlink y | rmdir y =>
    intro w hw x hx hcovers
    obtain rfl := List.mem_singleton.mp hw
    obtain rfl : x = y := hcovers
    exact hapart.not_prefix hx he
  | readdir =>
    intro w hw
    cases hw
  | _ => cases he

theorem sftpRmrf_clear {depth : Nat} {p : Path} (h : Ends (sftpRmrf depth p) m (.ok ()) m')
    (hrest : m'.history = m.history ++ rest) :
    m'.state.files.clear p = true ↔
      m.state.files.clear p = true ∨ Answered rest (.readdir p) := by
  cases depth with
  | zero => cases h
  | succ depth =>
    obtain ⟨entries, m₁, hread, h⟩ := ends_bind_ok.mp h
    rcases ends_tryCatch.mp hread with ⟨a, hread, heq⟩ | ⟨error, m₂, hread, herror⟩
    · -- The directory was listed, and in the end it could be removed.
      cases heq
      obtain ⟨names, m₂, hlist, hret⟩ := ends_bind_ok.mp hread
      obtain ⟨ha, rfl⟩ := ends_ret.mp hret
      cases ha
      obtain ⟨i, hok, rfl⟩ := ends_await.mp hlist
      obtain ⟨_, m₃, _, hrmdir⟩ := ends_bind_ok.mp h
      obtain ⟨j, hrm, rfl⟩ := ends_await.mp hrmdir
      have hrun := exec_ok hrm.symm
      have hclear : (exec (Stmt.rmdir p) j m₃.state).2.files.clear p = true := by
        simp only [Stmt.run] at hrun
        repeat' split at hrun
        · cases hrun
        · rename_i hbare
          obtain ⟨_, hpost⟩ := Prod.mk.injEq .. ▸ Except.ok.inj hrun
          rw [← hpost]
          exact Tree.clear_erase_self.trans hbare
        · cases hrun
        · cases hrun
      refine iff_of_true hclear (.inr ?_)
      obtain ⟨rest₂, hrest₂⟩ := h.history
      obtain rfl : rest = ⟨0, .readdir p, i, .ok names⟩ :: rest₂ := by
        rw [hrest₂, Moment.next_history, ← hok, List.append_assoc] at hrest
        exact (List.append_cancel_left hrest).symm
      exact ⟨0, i, .ok names, .head _, names, rfl⟩
    · -- It was not.
      rcases ends_bind.mp hread with ⟨names, m₃, _, hret⟩ | ⟨x, hread, heq⟩
      · obtain ⟨hx, _⟩ := ends_ret.mp hret
        cases hx
      · cases heq
        obtain ⟨i, herr, rfl⟩ := ends_await.mp hread
        split at herror
        · obtain ⟨hnone, rfl⟩ := ends_ret.mp herror
          cases hnone
          obtain ⟨_, rfl⟩ := ends_ret.mp h
          have hsame : (exec (Stmt.readdir p) i m.state).2.files.clear p =
              m.state.files.clear p := by
            refine Tree.clear_congr fun e _ => exec_frame (fun w hw => ?_) i m.state
            cases hw
          obtain rfl : rest = [⟨0, .readdir p, i, .error error⟩] := by
            rw [Moment.next_history, ← herr] at hrest
            exact (List.append_cancel_left hrest).symm
          rw [Moment.next_state, hsame, Answered, happened_self]
          constructor
          · exact .inl
          · rintro (hclear | ⟨b, hb⟩)
            · exact hclear
            · cases hb
        · obtain ⟨hx, _⟩ := ends_ret.mp herror
          cases hx

/-- An unlink that is dropped when it fails: it has removed a link or a file if it was carried out,
and never a directory. -/
theorem sftpUnlink_clear {p : Path} {r : Except Failure Unit} (h : Ends (sftpUnlink p) m r m') :
    ∃ i x, m'.history = m.history ++ [⟨0, .unlink p, i, x⟩] ∧
      (m'.state.files.clear p = true ↔ m.state.files.clear p = true ∨
        m.state.files.get? p ≠ some .directory ∧ m.state.files.bare p = true ∧
          i.carriedOut = true) := by
  obtain ⟨_, r₁, hunlink⟩ := ends_ignoreError.mp h
  obtain ⟨i, _, rfl⟩ := ends_await.mp hunlink
  refine ⟨i, _, rfl, ?_⟩
  rw [Moment.next_state]
  cases hi : i.carriedOut with
  | false =>
    rw [exec_of_not_carriedOut m.state rfl hi]
    simp
  | true =>
    cases hget : m.state.files.get? p with
    | none =>
      have hsame : (exec (Stmt.unlink p) i m.state).2 = m.state := by
        rcases exec_state (Stmt.unlink p) i m.state with hsame | ⟨b, hrun⟩
        · exact hsame
        · simp only [Stmt.run, hget] at hrun
          cases hrun
      rw [hsame]
      constructor
      · exact .inl
      · rintro (hclear | ⟨_, hbare, _⟩)
        · exact hclear
        · exact Tree.clear_of_bare hbare hget
    | some entry =>
      have hoccupied : m.state.files.clear p ≠ true := by
        intro hclear
        rw [Tree.get?_of_clear hclear] at hget
        cases hget
      by_cases hdir : entry = .directory
      · have hsame : (exec (Stmt.unlink p) i m.state).2 = m.state := by
          rcases exec_state (Stmt.unlink p) i m.state with hsame | ⟨b, hrun⟩
          · exact hsame
          · simp only [Stmt.run, hget, hdir] at hrun
            cases hrun
        rw [hsame]
        simp [hdir, hoccupied]
      · have hrun : Stmt.run i (.unlink p) m.state =
            .ok ((), m.state.onFiles (m.state.files.erase p)) := by
          simp only [Stmt.run, hget]
        rw [exec_of_carriedOut rfl hi hrun]
        simp only [Hosts.onFiles, Tree.clear_erase_self, hoccupied, Bool.false_eq_true,
          false_or, ne_eq, Option.some.injEq, hdir, not_false_eq_true, true_and, and_true]

/-! ## The built-in target -/

theorem append_ne (s : String) {suffix : String} (h : suffix.toList ≠ []) : s ≠ s ++ suffix := by
  intro heq
  have hlist := congrArg String.toList heq
  rw [String.toList_append] at hlist
  exact h (List.self_eq_append_right.mp hlist)

theorem link_releases_apart (cfg : EffCfg) (slug : String) :
    Tree.Apart (SftpProvider.linkPath cfg slug) (SftpProvider.releasesPath cfg slug) :=
  Tree.apart_of_ne (append_ne slug (by decide))

def BuiltinReleased (cfg : EffCfg) (slug : String) (t : Files) (rest : List HostsEvent) : Prop :=
  (t.clear (SftpProvider.linkPath cfg slug) = true ∨
    t.get? (SftpProvider.linkPath cfg slug) ≠ some .directory ∧
      t.bare (SftpProvider.linkPath cfg slug) = true ∧
      CarriedOut rest (.unlink (SftpProvider.linkPath cfg slug))) ∧
  (t.clear (SftpProvider.releasesPath cfg slug) = true ∨
    Answered rest (.readdir (SftpProvider.releasesPath cfg slug)))

theorem removeBuiltin_empties {depth : Nat} {cfg : EffCfg} {slug : String}
    (h : Ends (SftpProvider.removeBuiltin depth cfg slug) m (.ok ()) m')
    (hrest : m'.history = m.history ++ rest) :
    (m'.state.files.clear (SftpProvider.linkPath cfg slug) = true ∧
      m'.state.files.clear (SftpProvider.releasesPath cfg slug) = true) ↔
      BuiltinReleased cfg slug m.state.files rest := by
  obtain ⟨_, m₁, hunlink, hrmrf⟩ := ends_bind_ok.mp h
  obtain ⟨i, x, hhistory, hlink⟩ := sftpUnlink_clear hunlink
  have hapart := link_releases_apart cfg slug
  have hremoval := sftpRmrf_removal (SftpProvider.releasesPath cfg slug) depth (List.prefix_refl _)
  obtain ⟨rest₂, hrest₂, hcalls⟩ := hrmrf.events hremoval
  obtain rfl : rest = ⟨0, .unlink (SftpProvider.linkPath cfg slug), i, x⟩ :: rest₂ := by
    rw [hrest₂, hhistory, List.append_assoc] at hrest
    exact (List.append_cancel_left hrest).symm
  have hlinkKept : m'.state.files.clear (SftpProvider.linkPath cfg slug) =
      m₁.state.files.clear (SftpProvider.linkPath cfg slug) :=
    clear_after (hremoval.mono fun _ he => removal_writes hapart he) hrmrf
  have hreleasesKept : m₁.state.files.clear (SftpProvider.releasesPath cfg slug) =
      m.state.files.clear (SftpProvider.releasesPath cfg slug) := by
    refine clear_after (p := sftpUnlink (SftpProvider.linkPath cfg slug))
      (.ignoreError (.await fun w hw y hy hcovers => ?_)) hunlink
    obtain rfl := List.mem_singleton.mp hw
    obtain rfl : y = SftpProvider.linkPath cfg slug := hcovers
    exact hapart.2 hy
  have hunlinked : CarriedOut (⟨0, .unlink (SftpProvider.linkPath cfg slug), i, x⟩ :: rest₂)
      (.unlink (SftpProvider.linkPath cfg slug)) ↔ i.carriedOut = true := by
    rw [CarriedOut, ← List.singleton_append, happened_append, happened_self]
    exact or_iff_left (not_happened hcalls fun hbelow => hapart.2 hbelow)
  have hlisted : Answered (⟨0, .unlink (SftpProvider.linkPath cfg slug), i, x⟩ :: rest₂)
      (.readdir (SftpProvider.releasesPath cfg slug)) ↔
      Answered rest₂ (.readdir (SftpProvider.releasesPath cfg slug)) := by
    rw [Answered, Answered, ← List.singleton_append, happened_append]
    refine or_iff_right (not_happened (P := fun e => e.lists = none) (fun ev hev => ?_) nofun)
    rw [List.mem_singleton.mp hev]
    rfl
  rw [BuiltinReleased, hunlinked, hlisted, hlinkKept, hlink, sftpRmrf_clear hrmrf hrest₂,
    hreleasesKept]

end InitPad.Hosting
