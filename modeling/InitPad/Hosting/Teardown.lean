import InitPad.Hosting.ShellRemoval

/-!
# InitPad.Hosting.Teardown

What a teardown that resolves has left. `DeploymentService.teardown` drops most failures: a daemon
that does not answer, a removal or an unlink that is refused, a connection that cannot be made, a
shell command whose exit code is lost. `Released` says which of them did not matter, and
`teardown_gone` that the environment is gone exactly then.
-/

namespace InitPad.Hosting

open Store Interleave Prog

variable {m m' m₁ : HostsMoment} {rest rest₁ rest₂ : List HostsEvent}

/-! ## A user's own server -/

/-- Calls of `removeData`: nothing at `y` or below is written, nothing listed, no removal script
run. -/
def Stmt.dataCall (cfg : EffCfg) (slug : String) (y : Path) {β : Type} (e : Stmt β) : Prop :=
  (∀ w ∈ e.writes, ∀ x, y <+: x → ¬ w.Covers x) ∧ e.lists = none ∧
    ∀ stamp, e.script? ≠ some (SftpProvider.publicScript cfg slug stamp)

section Custom

variable {cfg : EffCfg} {slug stamp : String}

theorem sshExec_only {P : ∀ {γ : Type}, Stmt γ → Prop} {script : List ShellStep}
    (h : P (.exec script)) : (sshExec script).Only P := .bind (.await h) fun _ => .ret _

theorem require_only {P : ∀ {γ : Type}, Stmt γ → Prop} {message : String}
    {script : List ShellStep} (h : P (.exec script)) :
    (SftpProvider.require message script).Only P := by
  refine .bind (sshExec_only h) fun r => ?_
  split <;> exact .ret _

theorem removeData_calls {y : Path} (hdata : Tree.Apart (SftpProvider.dataPath cfg slug) y)
    (hquarantine : ∀ stamp, Tree.Apart (SftpProvider.quarantinePath cfg slug "runtime-" stamp) y)
    (hroot : ¬ y <+: SftpProvider.quarantineRoot cfg) :
    (SftpProvider.removeData cfg slug).Only fun e => e.dataCall cfg slug y := by
  refine .bind (sshExec_only ⟨?_, rfl, ?_⟩) fun removed => ?_
  · intro w hw x hx hcovers
    obtain rfl := List.mem_singleton.mp hw
    exact hdata.symm.not_prefix hx hcovers
  · rintro stamp heq
    cases Option.some.inj heq
  · split
    · exact .ret _
    · refine .bind (.await ⟨?_, rfl, ?_⟩) fun stamp =>
        .bind (require_only ⟨?_, rfl, ?_⟩) fun _ => .ret _
      · intro w hw
        cases hw
      · intro stamp heq
        cases heq
      · intro w hw x hx
        obtain ⟨step, hstep, hw⟩ := List.mem_flatMap.mp hw
        simp only [SftpProvider.dataQuarantineScript, List.mem_cons, List.not_mem_nil,
          or_false] at hstep
        rcases hstep with rfl | rfl | rfl
        · exact parents_covers hw hx hroot
        · cases hw
        · rcases List.mem_cons.mp hw with rfl | hw
          · exact hdata.symm.not_prefix hx
          · obtain rfl := List.mem_singleton.mp hw
            exact (hquarantine stamp).symm.not_prefix hx
      · rintro stamp heq
        cases Option.some.inj heq

/-- What a user's server may have left depends on whether the connection ran shell commands. -/
def ShellReleased (cfg : EffCfg) (slug : String) (t : Files) (rest : List HostsEvent) : Prop :=
  (Ran rest fun script i => (∃ stamp, script = SftpProvider.publicScript cfg slug stamp) ∧
    (runScript i script t).succeeded = true) ∧
  DataReleased cfg slug t rest

def asidePaths (cfg : EffCfg) (slug : String) : List Path :=
  [SftpProvider.stagingPath cfg slug, SftpProvider.archivePath cfg slug,
    SftpProvider.dataPath cfg slug]

/-- There was nothing; or only a served directory, which was listed; or the shell removed it. -/
def CustomReleased (cfg : EffCfg) (slug : String) (t : Files) (rest : List HostsEvent) : Prop :=
  (t.clear (SftpProvider.linkPath cfg slug) = true ∨
      Answered rest (.readdir (SftpProvider.linkPath cfg slug))) ∧
    (∀ p ∈ asidePaths cfg slug, t.clear p = true) ∨
  ShellReleased cfg slug t rest

def OtherScript (cfg : EffCfg) (slug : String) (ev : HostsEvent) : Prop :=
  ∀ script, ev.stmt.script? = some script →
    script ≠ [.removeTree (SftpProvider.dataPath cfg slug)] ∧
      ∀ stamp, script ≠ SftpProvider.dataQuarantineScript cfg slug stamp

theorem dataReleased_congr {t t' : Files}
    (hsame : ∀ e, SftpProvider.dataPath cfg slug <+: e.1 → SameEntry t t' e)
    (hleft : ∀ ev ∈ rest₁, OtherScript cfg slug ev) {rest₃ : List HostsEvent}
    (hright : ∀ ev ∈ rest₃, OtherScript cfg slug ev) :
    DataReleased cfg slug t' rest₂ ↔ DataReleased cfg slug t (rest₁ ++ (rest₂ ++ rest₃)) := by
  have hran : ∀ {P : List ShellStep → Reply → Prop},
      (∀ ev, OtherScript cfg slug ev → ∀ script, ev.stmt.script? = some script →
        ¬ P script ev.input) → (Ran (rest₁ ++ (rest₂ ++ rest₃)) P ↔ Ran rest₂ P) := by
    intro P hP
    rw [ran_append, ran_append]
    have h1 : ¬ Ran rest₁ P := not_ran_of fun ev hev => hP ev (hleft ev hev)
    have h3 : ¬ Ran rest₃ P := not_ran_of fun ev hev => hP ev (hright ev hev)
    exact (or_iff_right h1).trans (or_iff_left h3)
  have hdenied : ∀ i : Reply,
      (∀ e ∈ t.entries, SftpProvider.dataPath cfg slug <+: e.1 → i.denied e.1 = false) ↔
        ∀ e ∈ t'.entries, SftpProvider.dataPath cfg slug <+: e.1 → i.denied e.1 = false := by
    intro i
    constructor
    · exact fun h e he hp => h e ((hsame e hp).mp he) hp
    · exact fun h e he hp => h e ((hsame e hp).mpr he) hp
  simp only [DataReleased, hdenied]
  rw [hran fun ev hother script hscript h => (hother script hscript).1 h.1,
    hran fun ev hother script hscript h => (hother script hscript).1 h.1,
    hran fun ev hother script hscript h => (hother script hscript).2 h.1.choose h.1.choose_spec]

theorem otherScript_of_none {ev : HostsEvent} (h : ev.stmt.script? = none) :
    OtherScript cfg slug ev := by
  intro script hscript
  rw [h] at hscript
  cases hscript

theorem find_sameFiles {start : String} {w : Option String}
    (h : Ends (SftpProvider.pendingQuarantine cfg start) m (.ok w) m') :
    (∀ p, m'.state.files.clear p = m.state.files.clear p) ∧
      ∃ i x, m'.history = m.history ++ [⟨0, .exec [.findDirectories
        (SftpProvider.quarantineRoot cfg) (start ++ "-")], i, x⟩] := by
  obtain ⟨pending, m₁, hexec, hret⟩ := ends_bind_ok.mp h
  obtain ⟨i, ⟨⟨x, hhistory⟩, _⟩, _⟩ := sshExec_ok hexec
  have hm₁ : m' = m₁ := by
    split at hret
    · exact (ends_ret.mp hret).2
    · split at hret
      · exact (ends_ret.mp hret).2
      · exact (ends_ret.mp hret).2
  subst hm₁
  refine ⟨fun p => clear_after (sshExec_only fun w hw => ?_) hexec, i, x, hhistory⟩
  exact absurd hw List.not_mem_nil

end Custom

section RemoveCustom

variable {cfg : EffCfg} {slug : String} (hslug : lastChar slug ∈ envEnds) {depth : Nat}

include hslug in
theorem link_aside_apart {p : Path} (hp : p ∈ asidePaths cfg slug) :
    Tree.Apart p (SftpProvider.linkPath cfg slug) := by
  simp only [asidePaths, List.mem_cons, List.not_mem_nil, or_false] at hp
  rcases hp with rfl | rfl | rfl
  · exact Tree.apart_of_ne (append_ne slug (by decide)).symm
  · exact Tree.apart_of_ne (append_ne slug (by decide)).symm
  · refine apart_of_last _ _ ?_
    rw [data_last]
    exact (slug_ne hslug (by decide)).symm

include hslug in
theorem removeOverSftp_empties
    (h : Ends (sftpRmrf depth (SftpProvider.linkPath cfg slug)) m (.ok ()) m')
    (hrest : m'.history = m.history ++ rest) :
    (m'.state.files.clear (SftpProvider.linkPath cfg slug) = true ∧
        ∀ p ∈ asidePaths cfg slug, m'.state.files.clear p = true) ↔
      CustomReleased cfg slug m.state.files rest := by
  have hremoval := sftpRmrf_removal (SftpProvider.linkPath cfg slug) depth (List.prefix_refl _)
  obtain ⟨rest', hrest', hcalls⟩ := h.events hremoval
  obtain rfl : rest' = rest := List.append_cancel_left (hrest'.symm.trans hrest)
  have hshell : ¬ ShellReleased cfg slug m.state.files rest' := by
    rintro ⟨hran, _⟩
    exact not_ran (fun ev hev => removal_script (hcalls ev hev)) hran
  rw [CustomReleased, or_iff_left hshell, sftpRmrf_clear h hrest]
  refine and_congr_right fun _ => forall₂_congr fun p hp => ?_
  rw [clear_after (hremoval.mono fun _ he => removal_writes (link_aside_apart hslug hp) he) h]

include hslug in
theorem removeWithShell_empties {stamp : String} {i : Reply} {m₂ m₃ m₄ : HostsMoment}
    (hstate : m₂.state = m.state)
    (hpublic : Executed m₂ m₃ (SftpProvider.publicScript cfg slug stamp) i)
    (hdata : Ends (SftpProvider.removeData cfg slug) m₃ (.ok ()) m₄)
    (hrest₂ : m₄.history = m₃.history ++ rest₂) :
    (m₄.state.files.clear (SftpProvider.linkPath cfg slug) = true ∧
        ∀ p ∈ asidePaths cfg slug, m₄.state.files.clear p = true) ↔
      (runScript i (SftpProvider.publicScript cfg slug stamp) m.state.files).succeeded = true ∧
        DataReleased cfg slug m₃.state.files rest₂ := by
  have hdisjoint := publicPaths_disjoint hslug cfg stamp
  have hm₃ : m₃.state.files =
      (runScript i (SftpProvider.publicScript cfg slug stamp) m.state.files).files := by
    rw [hpublic.state, hstate]
    rfl
  have hkept : ∀ e ∈ SftpProvider.publicPaths cfg slug stamp,
      m₄.state.files.clear e.1 = m₃.state.files.clear e.1 := by
    intro e he
    refine clear_after ((removeData_calls (public_data_apart hslug he).symm (fun stamp' => ?_)
      (hdisjoint.root e he)).mono fun _ hcall => hcall.1) hdata
    obtain ⟨name, _, h1, _, hname⟩ := publicPaths_last he
    rw [h1, quarantinePath_eq]
    refine apart_of_last _ _ ?_
    rw [quarantine_last]
    exact (public_ne hslug (.inr rfl) hname).symm
  rw [← removeData_empties hdata hrest₂]
  have hscript := removalScript_clear (i := i) (t := m.state.files) hdisjoint
  rw [show SftpProvider.publicScript cfg slug stamp = removalScript
    (SftpProvider.quarantineRoot cfg) (SftpProvider.publicPaths cfg slug stamp) from rfl] at hm₃ ⊢
  rw [hscript, ← hm₃]
  simp only [SftpProvider.publicPaths, List.forall_mem_cons, List.not_mem_nil,
    IsEmpty.forall_iff, implies_true, and_true] at hkept ⊢
  simp only [asidePaths, List.forall_mem_cons, List.not_mem_nil, IsEmpty.forall_iff,
    implies_true, and_true, hkept.1, hkept.2.1, hkept.2.2, and_assoc]

theorem publicScript_other {ev : HostsEvent} {stamp : String}
    (h : ev.stmt.script? = some (SftpProvider.publicScript cfg slug stamp)) :
    OtherScript cfg slug ev := by
  intro script hscript
  rw [h] at hscript
  obtain rfl := Option.some.inj hscript
  exact ⟨nofun, nofun⟩

theorem echo_other {ev : HostsEvent} {line : String} (h : ev.stmt.script? = some [.echo line]) :
    OtherScript cfg slug ev := by
  intro script hscript
  rw [h] at hscript
  obtain rfl := Option.some.inj hscript
  exact ⟨nofun, nofun⟩

theorem find_other {ev : HostsEvent} {root : Path} {start : String}
    (h : ev.stmt.script? = some [.findDirectories root start]) : OtherScript cfg slug ev := by
  intro script hscript
  rw [h] at hscript
  obtain rfl := Option.some.inj hscript
  exact ⟨nofun, nofun⟩

include hslug in
theorem removeCustom_empties {w : Option String}
    (h : Ends (SftpProvider.removeCustom depth cfg slug) m (.ok w) m')
    (hrest : m'.history = m.history ++ rest) :
    (m'.state.files.clear (SftpProvider.linkPath cfg slug) = true ∧
        ∀ p ∈ asidePaths cfg slug, m'.state.files.clear p = true) ↔
      CustomReleased cfg slug m.state.files rest := by
  obtain ⟨shell, m₁, hprobe, h⟩ := ends_bind_ok.mp h
  obtain ⟨_, e, x, _, hhistory, hstate⟩ := execWorks_ends hprobe
  cases shell with
  | false =>
    obtain ⟨_, m₂, hrmrf, hret⟩ := ends_bind_ok.mp h
    obtain ⟨_, rfl⟩ := ends_ret.mp hret
    obtain ⟨rest₂, hrest₂⟩ := hrmrf.history
    obtain rfl : rest = [⟨0, .exec [.echo "ok"], e, x⟩] ++ rest₂ := by
      rw [hrest₂, hhistory, List.append_assoc] at hrest
      exact (List.append_cancel_left hrest).symm
    have hlisted : Answered ([⟨0, .exec [.echo "ok"], e, x⟩] ++ rest₂)
        (.readdir (SftpProvider.linkPath cfg slug)) ↔
        Answered rest₂ (.readdir (SftpProvider.linkPath cfg slug)) := by
      rw [Answered, happened_append]
      refine or_iff_right (not_happened (P := fun e => e.lists = none) (fun ev hev => ?_)
        (by intro heq; cases heq))
      rw [List.mem_singleton.mp hev]
      rfl
    have hremoval := sftpRmrf_removal (SftpProvider.linkPath cfg slug) depth
      (List.prefix_refl _)
    obtain ⟨rest', hrest', hcalls⟩ := hrmrf.events hremoval
    obtain rfl : rest' = rest₂ := List.append_cancel_left (hrest'.symm.trans hrest₂)
    have hno : ∀ rest₀ : List HostsEvent,
        (∀ ev ∈ rest₀, ∀ stamp, ev.stmt.script? ≠ some (SftpProvider.publicScript cfg slug stamp)) →
          ¬ ShellReleased cfg slug m.state.files rest₀ := by
      rintro rest₀ hrest₀ ⟨⟨ev, hev, script, hscript, ⟨stamp, rfl⟩, _⟩, _⟩
      exact hrest₀ ev hev stamp hscript
    rw [removeOverSftp_empties hslug hrmrf hrest₂, CustomReleased, CustomReleased, hlisted,
      hstate, or_iff_left (hno _ fun ev hev stamp => ?_),
      or_iff_left (hno _ fun ev hev stamp => ?_)]
    · rcases List.mem_append.mp hev with hev | hev
      · obtain rfl := List.mem_singleton.mp hev
        intro heq
        cases Option.some.inj heq
      · rw [removal_script (hcalls ev hev)]
        intro heq
        cases heq
    · rw [removal_script (hcalls ev hev)]
      intro heq
      cases heq
  | true =>
    obtain ⟨stamp, m₂, hstamp, h⟩ := ends_bind_ok.mp h
    obtain ⟨k, _, rfl⟩ := ends_await.mp hstamp
    obtain ⟨_, m₃, hpublic, h⟩ := ends_bind_ok.mp h
    obtain ⟨i, hpublic, _⟩ := require_ok hpublic
    obtain ⟨y, hpublicHistory⟩ := hpublic.history
    obtain ⟨_, m₄, hdata, hfind⟩ := ends_bind_ok.mp h
    obtain ⟨hsame, j, z, hfindHistory⟩ := find_sameFiles hfind
    have hdisjoint := publicPaths_disjoint hslug cfg ""
    have hlink : (SftpProvider.linkPath cfg slug, SftpProvider.quarantinePath cfg slug "legacy-" "")
        ∈ SftpProvider.publicPaths cfg slug "" := .head _
    obtain ⟨rest₂, hrest₂, hcalls⟩ := hdata.events <| removeData_calls
      (public_data_apart hslug hlink).symm (fun stamp' => by
        rw [quarantinePath_eq]
        refine apart_of_last _ _ ?_
        rw [quarantine_last]
        exact (slug_ne hslug (by decide)).symm) (hdisjoint.root _ hlink)
    let before : List HostsEvent := [⟨0, .exec [.echo "ok"], e, x⟩, ⟨0, .randomText, k, .ok k.stamp⟩,
      ⟨0, .exec (SftpProvider.publicScript cfg slug stamp), i, y⟩]
    let after : List HostsEvent := [⟨0, .exec [.findDirectories (SftpProvider.quarantineRoot cfg)
      (slug ++ "-")], j, z⟩]
    obtain rfl : rest = before ++ (rest₂ ++ after) := by
      rw [hfindHistory, hrest₂, hpublicHistory, Moment.next_history, hhistory] at hrest
      simp only [List.append_assoc] at hrest
      exact (List.append_cancel_left hrest).symm
    have hstate₂ : (m₁.next 0 Stmt.randomText k).state = m.state := hstate
    have hm₃ : m₃.state.files =
        (runScript i (SftpProvider.publicScript cfg slug stamp) m.state.files).files := by
      rw [hpublic.state, hstate₂]
      rfl
    have hbefore : ∀ ev ∈ before, OtherScript cfg slug ev := by
      intro ev hev
      simp only [before, List.mem_cons, List.not_mem_nil, or_false] at hev
      rcases hev with rfl | rfl | rfl
      · exact echo_other rfl
      · exact otherScript_of_none rfl
      · exact publicScript_other rfl
    have hafter : ∀ ev ∈ after, OtherScript cfg slug ev := by
      intro ev hev
      obtain rfl := List.mem_singleton.mp hev
      exact find_other rfl
    have hdataSame : DataReleased cfg slug m₃.state.files rest₂ ↔
        DataReleased cfg slug m.state.files (before ++ (rest₂ ++ after)) := by
      refine dataReleased_congr (fun e he => ?_) hbefore hafter
      rw [hm₃]
      exact (data_spared hslug cfg stamp).same he
    have hnotListed : ¬ Answered (before ++ (rest₂ ++ after))
        (.readdir (SftpProvider.linkPath cfg slug)) := by
      refine not_happened (P := fun e => e.lists = none) (fun ev hev => ?_)
        (by intro heq; cases heq)
      rcases List.mem_append.mp hev with hev | hev
      · simp only [before, List.mem_cons, List.not_mem_nil, or_false] at hev
        rcases hev with rfl | rfl | rfl <;> rfl
      · rcases List.mem_append.mp hev with hev | hev
        · exact (hcalls ev hev).2.1
        · obtain rfl := List.mem_singleton.mp hev
          rfl
    have hran : (Ran (before ++ (rest₂ ++ after)) fun script i =>
        (∃ stamp, script = SftpProvider.publicScript cfg slug stamp) ∧
          (runScript i script m.state.files).succeeded = true) ↔
        (runScript i (SftpProvider.publicScript cfg slug stamp) m.state.files).succeeded = true := by
      constructor
      · rintro ⟨ev, hev, script, hscript, ⟨stamp', rfl⟩, hsucceeded⟩
        rcases List.mem_append.mp hev with hev | hev
        · simp only [before, List.mem_cons, List.not_mem_nil, or_false] at hev
          rcases hev with rfl | rfl | rfl
          · cases Option.some.inj hscript
          · cases hscript
          · rw [Option.some.inj hscript]
            exact hsucceeded
        · rcases List.mem_append.mp hev with hev | hev
          · exact absurd hscript ((hcalls ev hev).2.2 stamp')
          · obtain rfl := List.mem_singleton.mp hev
            cases Option.some.inj hscript
      · intro hsucceeded
        exact ⟨_, List.mem_append_left _ (.tail _ (.tail _ (.head _))), _, rfl, ⟨stamp, rfl⟩,
          hsucceeded⟩
    simp only [hsame]
    rw [removeWithShell_empties hslug hstate₂ hpublic hdata hrest₂, hdataSame, CustomReleased,
      ShellReleased, hran]
    constructor
    · exact .inr
    · rintro (⟨hlinkClear | hlisted, haside⟩ | hshell)
      · -- There was nothing: the scripts had nothing to do.
        simp only [asidePaths, List.forall_mem_cons] at haside
        refine ⟨removalScript_of_clear (SftpProvider.publicPaths cfg slug stamp) ?_, ?_⟩
        · simp only [SftpProvider.publicPaths, List.forall_mem_cons, List.not_mem_nil,
            IsEmpty.forall_iff, implies_true, and_true]
          exact ⟨hlinkClear, haside.1, haside.2.1⟩
        · rw [← hdataSame]
          refine .inl ((removeData_ran hdata hrest₂).mono fun script i hscript => ⟨hscript, ?_⟩)
          intro d hd hpre
          refine absurd hpre (Tree.clear_iff.mp ?_ d hd)
          rw [hm₃]
          exact (Tree.clear_congr fun d hd => (data_spared hslug cfg stamp).same hd).trans
            haside.2.2.1
      · exact absurd hlisted hnotListed
      · exact hshell

end RemoveCustom

/-! ## Teardown over SFTP -/

def SftpReleased (cfg : EffCfg) (slug : String) (t : Files) (rest : List HostsEvent) : Prop :=
  if cfg.custom then CustomReleased cfg slug t rest else BuiltinReleased cfg slug t rest

section Sftp

variable {cfg : EffCfg} {slug : String} {t : Files}

theorem sftpReleased_nil :
    SftpReleased cfg slug t [] ↔ ∀ p ∈ canonicalPaths cfg slug, t.clear p = true := by
  have hnever : ∀ {β : Type} {e : Stmt β} {q : Reply → Except Failure β → Prop},
      ¬ Happened [] e q := by
    rintro β e q ⟨_, _, _, hev, _⟩
    cases hev
  have hran : ∀ {P}, ¬ Ran [] P := by
    rintro P ⟨_, hev, _⟩
    cases hev
  cases hcustom : cfg.custom with
  | true =>
    simp [SftpReleased, hcustom, canonicalPaths, CustomReleased, ShellReleased, asidePaths,
      Answered, hnever, hran]
  | false =>
    simp [SftpReleased, hcustom, canonicalPaths, BuiltinReleased, Answered, CarriedOut, hnever]

theorem sftpReleased_aside {rest₃ : List HostsEvent} (hleft : ∀ ev ∈ rest₁, ev.stmt.aside)
    (hright : ∀ ev ∈ rest₃, ev.stmt.aside) :
    SftpReleased cfg slug t (rest₁ ++ (rest₂ ++ rest₃)) ↔ SftpReleased cfg slug t rest₂ := by
  have hhappened : ∀ {β : Type} {e : Stmt β} {q : Reply → Except Failure β → Prop}, ¬ e.aside →
      (Happened (rest₁ ++ (rest₂ ++ rest₃)) e q ↔ Happened rest₂ e q) := by
    intro β e q he
    rw [happened_append, happened_append, or_iff_right (not_happened hleft he),
      or_iff_left (not_happened hright he)]
  have hran : ∀ {P}, Ran (rest₁ ++ (rest₂ ++ rest₃)) P ↔ Ran rest₂ P := by
    intro P
    rw [ran_append, ran_append, or_iff_right (not_ran fun ev hev => aside_script (hleft ev hev)),
      or_iff_left (not_ran fun ev hev => aside_script (hright ev hev))]
  unfold SftpReleased
  split
  · rw [CustomReleased, CustomReleased, ShellReleased, ShellReleased, DataReleased, DataReleased,
      Answered, hhappened id, hran, hran, hran, hran]
    rfl
  · rw [BuiltinReleased, BuiltinReleased, CarriedOut, Answered, hhappened id, hhappened id]
    rfl

theorem succeeds_ends {β : Type} {e : Stmt β} {r : Except Failure Bool}
    (h : Ends (succeeds (await e)) m r m') : ∃ i b, r = .ok b ∧ m' = m.next 0 e i := by
  rcases ends_tryCatch.mp h with ⟨b, hcall, rfl⟩ | ⟨error, m₁, hcall, hret⟩
  · obtain ⟨_, m₁, hcall, hret⟩ := ends_bind_ok.mp hcall
    obtain ⟨_, rfl⟩ := ends_ret.mp hret
    obtain ⟨i, _, rfl⟩ := ends_await.mp hcall
    exact ⟨i, b, rfl, rfl⟩
  · obtain ⟨rfl, rfl⟩ := ends_ret.mp hret
    rcases ends_bind.mp hcall with ⟨_, m₁, _, hret⟩ | ⟨_, hcall, _⟩
    · obtain ⟨hx, _⟩ := ends_ret.mp hret
      cases hx
    · obtain ⟨i, _, rfl⟩ := ends_await.mp hcall
      exact ⟨i, false, rfl, rfl⟩

theorem teardownConnected_empties {depth : Nat} (hslug : lastChar slug ∈ envEnds)
    {w : Option String} (h : Ends (SftpProvider.teardownConnected depth cfg slug) m (.ok w) m')
    (hrest : m'.history = m.history ++ rest) :
    (∀ p ∈ canonicalPaths cfg slug, m'.state.files.clear p = true) ↔
      SftpReleased cfg slug m.state.files rest := by
  obtain ⟨_, m₁, hopen, h⟩ := ends_bind_ok.mp h
  obtain ⟨i, _, rfl⟩ := ends_await.mp hopen
  obtain ⟨rest₂, hrest₂⟩ := h.history
  obtain rfl : rest = [⟨0, .openSftp, i, (exec Stmt.openSftp i m.state).1⟩] ++ (rest₂ ++ []) := by
    rw [hrest₂, Moment.next_history, List.append_assoc] at hrest
    rw [List.append_nil]
    exact (List.append_cancel_left hrest).symm
  have hopened : ∀ ev ∈ [(⟨0, .openSftp, i, (exec Stmt.openSftp i m.state).1⟩ : HostsEvent)],
      ev.stmt.aside := by
    intro ev hev
    rw [List.mem_singleton.mp hev]
    trivial
  have hfiles : (m.next 0 Stmt.openSftp i).state.files = m.state.files := by
    rcases exec_state Stmt.openSftp i m.state with hsame | ⟨b, hrun⟩
    · rw [Moment.next_state, hsame]
    · injection hrun with hrun
      injection hrun with _ hstate
      rw [Moment.next_state, ← hstate]
  rw [sftpReleased_aside hopened fun _ hev => absurd hev List.not_mem_nil, SftpReleased,
    canonicalPaths]
  split at h
  · rename_i hcustom
    rw [if_pos hcustom, if_pos hcustom, List.forall_mem_cons, ← hfiles]
    exact removeCustom_empties hslug h hrest₂
  · rename_i hcustom
    obtain ⟨_, m₂, hremove, hret⟩ := ends_bind_ok.mp h
    obtain ⟨_, rfl⟩ := ends_ret.mp hret
    rw [if_neg hcustom, if_neg hcustom, ← hfiles, ← removeBuiltin_empties hremove hrest₂]
    simp

end Sftp

theorem sftp_empties {config : ProviderConfig} {depth : Nat} {input : TeardownInput}
    {w : Option String} (h : Ends (DeploymentService.teardown config depth input .sftp) m (.ok w) m')
    (hrest : m'.history = m.history ++ rest) :
    Gone config input m'.state .sftp ↔
      SftpReleased (SftpProvider.eff config input.connection input.allocation)
        (SftpProvider.slug input.projectName input.env) m.state.files rest := by
  obtain ⟨m₂, hteardown, himage⟩ := ends_ensure_ok.mp h
  obtain ⟨rest₃, hrest₃, hasideImage⟩ := himage.events (releaseImage_aside input.imageRef)
  have hsame : ∀ p, m'.state.files.clear p = m₂.state.files.clear p :=
    fun p => clear_of_aside (releaseImage_aside input.imageRef) himage
  obtain ⟨connected, m₁, hconnect, hteardown⟩ := ends_bind_ok.mp hteardown
  obtain ⟨i, _, _, rfl⟩ := succeeds_ends hconnect
  have hconnected : ∀ ev ∈ [(⟨0, .connect, i, (exec Stmt.connect i m.state).1⟩ : HostsEvent)],
      ev.stmt.aside := by
    intro ev hev
    rw [List.mem_singleton.mp hev]
    trivial
  have hfiles : (m.next 0 Stmt.connect i).state.files = m.state.files := by
    rcases exec_state Stmt.connect i m.state with hsame | ⟨b, hrun⟩
    · rw [Moment.next_state, hsame]
    · injection hrun with hrun
      injection hrun with _ hstate
      rw [Moment.next_state, ← hstate]
  obtain ⟨rest₂, hrest₂⟩ := hteardown.history
  obtain rfl : rest = [⟨0, .connect, i, (exec Stmt.connect i m.state).1⟩] ++ (rest₂ ++ rest₃) := by
    rw [hrest₃, hrest₂, Moment.next_history] at hrest
    simp only [List.append_assoc] at hrest
    exact (List.append_cancel_left hrest).symm
  rw [sftpReleased_aside hconnected hasideImage, ← hfiles]
  simp only [Gone, hsame]
  split at hteardown
  · exact teardownConnected_empties (slug_last _ _) hteardown hrest₂
  · obtain ⟨_, rfl⟩ := ends_ret.mp hteardown
    obtain rfl : rest₂ = [] := List.append_cancel_left (hrest₂.symm.trans (List.append_nil _).symm)
    exact sftpReleased_nil.symm

/-- The failures that the teardown dropped left nothing of the environment. -/
def Released (config : ProviderConfig) (input : TeardownInput) (h : Hosts)
    (rest : List HostsEvent) : ProviderKind → Prop
  | .docker => DockerReleased input h rest
  | .sftp => SftpReleased (SftpProvider.eff config input.connection input.allocation)
      (SftpProvider.slug input.projectName input.env) h.files rest

theorem teardown_gone {config : ProviderConfig} {depth : Nat} {input : TeardownInput}
    {provider : ProviderKind} {w : Option String}
    (h : Ends (DeploymentService.teardown config depth input provider) m (.ok w) m')
    (hrest : m'.history = m.history ++ rest) :
    Gone config input m'.state provider ↔ Released config input m.state rest provider := by
  cases provider with
  | docker => exact docker_empties h hrest
  | sftp => exact sftp_empties h hrest

end InitPad.Hosting
