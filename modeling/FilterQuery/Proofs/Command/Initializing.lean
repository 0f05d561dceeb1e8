import FilterQuery.Command.Session
import FilterQuery.Proofs.Config.Blank

/-!
# Initialising leaves configurations as they are

A new configuration file is put where none stood and gives nothing. Every directory keeps the
settings and keys it had, so that all queries compile as before. Where the file cannot be written,
nothing changes at all.
-/

namespace FilterQuery

/-- A directory has the same settings and keys in two trees, or the same is wrong with its
configuration. So its queries are compiled alike. -/
structure FileTree.ConfiguresAlike (tree other : FileTree) (home : Option Path)
    (directory : Path) : Prop where
  inForce_eq : Config.inForce <$> tree.loadConfig home directory =
    Config.inForce <$> other.loadConfig home directory
  compiler_eq : tree.loadConfig home directory >>= Compiler.ofConfig =
    other.loadConfig home directory >>= Compiler.ofConfig

theorem FileTree.AddsBlank.configuresAlike {tree written : FileTree}
    (hadds : tree.AddsBlank written) (home : Option Path) (directory : Path) :
    written.ConfiguresAlike tree home directory := by
  have hinForce := hadds.inForce_loadConfig_eq home directory
  exact ⟨hinForce, Compiler.ofConfig_congr hinForce⟩

namespace Session

/-- The file that is to be written: the one in the home directory if it is asked for or if this is
the working directory. -/
def initTarget? (session : Session) (everywhere : Bool) : Option Path :=
  (if everywhere || session.home.any session.directory.isSame then session.home
    else some session.directory).map configIn

/-- What initialising comes to if it may not replace a file: it fails and changes nothing, or a file
that gives nothing is added where there was none. -/
inductive Initialized (session : Session) (target? : Option Path) (outcome : Outcome) : Prop
  | unchanged (hfails : outcome.succeeded = false) (htree : outcome.tree = session.tree)
  | added (hsucceeds : outcome.succeeded = true) (hadds : session.tree.AddsBlank outcome.tree)
      (htarget : ∃ target, target? = some target ∧ session.tree.exists? target = false ∧
        outcome.tree.isFile target = true)

theorem initialized_runInit (session : Session) (color everywhere : Bool) :
    session.Initialized (session.initTarget? everywhere)
      (session.runInit color everywhere false) := by
  simp only [runInit, initTarget?, Bool.not_false, Bool.and_true]
  generalize (everywhere || session.home.any session.directory.isSame) = useHome
  have hblank : ConfigFile.read? (if useHome then globalTemplate else localTemplate) =
      some {} := by
    split
    · exact read?_globalTemplate
    · exact read?_localTemplate
  cases (if useHome then session.home else some session.directory) with
  | none => exact .unchanged rfl rfl
  | some directory =>
    dsimp only
    split
    · exact .unchanged rfl rfl
    · next hexists =>
      have habsent : session.tree.exists? (configIn directory) = false := by simpa using hexists
      have hnone : session.tree.find? (configIn directory) = none := by
        simpa [FileTree.exists?] using hexists
      split
      · exact .unchanged rfl rfl
      · next written hwrite =>
        obtain ⟨free, hfree, rfl, hfind⟩ := FileTree.write_eq_ok_of_find?_eq_none hnone hwrite
        exact .added rfl (FileTree.addsBlank_put hfree hblank)
          ⟨_, rfl, habsent, FileTree.isFile_of_text hfind⟩

/-- Where initialising succeeds, a file is there that was not, and every directory keeps its settings
and keys or what is wrong with them. It does not succeed where the file exists, and then, as whenever
it fails, all files stay as they are. -/
theorem init_keeps_configurations (session : Session) (everywhere : Bool) (color : ColorMode)
    (verbosity : Nat) :
    let outcome := session.run ⟨.init everywhere false, color, verbosity⟩
    (outcome.succeeded = true →
        (∃ target, session.initTarget? everywhere = some target ∧
          session.tree.exists? target = false ∧ outcome.tree.isFile target = true) ∧
        ∀ directory, outcome.tree.ConfiguresAlike session.tree session.home directory) ∧
      (∀ target, session.initTarget? everywhere = some target →
        session.tree.exists? target = true → outcome.succeeded = false) ∧
        (outcome.succeeded = false → outcome.tree = session.tree) := by
  intro outcome
  cases session.initialized_runInit (session.useColor color) everywhere with
  | unchanged hfails htree =>
    have houtcome : outcome.succeeded = false := hfails
    refine ⟨fun hsucceeds => ?_, fun _ _ _ => houtcome, fun _ => htree⟩
    rw [houtcome] at hsucceeds
    cases hsucceeds
  | added hsucceeds hadds htarget =>
    have houtcome : outcome.succeeded = true := hsucceeds
    refine ⟨fun _ => ⟨htarget, hadds.configuresAlike session.home⟩, fun target hsame hexists => ?_,
      fun hfails => ?_⟩
    · obtain ⟨free, hfree, habsent, _⟩ := htarget
      rw [← Option.some.inj (hfree.symm.trans hsame), habsent] at hexists
      cases hexists
    · rw [houtcome] at hfails
      cases hfails

/-- Initialised once, a directory keeps what it takes from the directory around it. It cannot be
initialised again. -/
theorem init_keeps_configurations_twice :
    let session : Session :=
      { tree := ⟨[(["srv"], .directory), (["app", "srv"], .directory),
          ([".sift.toml", "srv"], .text "[settings]\nmax_depth = 8\n")]⟩
        directory := Path.ofText "/srv/app"
        home := none }
    let once := session.run ⟨.init false false, .auto, 0⟩
    let further : Session := { session with tree := once.tree }
    let twice := further.run ⟨.init false false, .auto, 0⟩
    let target := Path.ofText "/srv/app/.sift.toml"
    (once.succeeded = true ∧ ∀ directory, once.tree.ConfiguresAlike session.tree none directory) ∧
      (further.initTarget? false = some target ∧ further.tree.exists? target = true) ∧
        twice.succeeded = false ∧ twice.tree = once.tree := by
  intro session once further twice target
  obtain ⟨hkeeps, _, _⟩ := init_keeps_configurations session false .auto 0
  obtain ⟨_, hexists, hunchanged⟩ := init_keeps_configurations further false .auto 0
  have honce : once.succeeded = true := by decide +kernel
  have htarget : further.initTarget? false = some target := by decide +kernel
  have hfound : further.tree.exists? target = true := by decide +kernel
  have htwice := hexists target htarget hfound
  exact ⟨⟨honce, (hkeeps honce).2⟩, ⟨htarget, hfound⟩, htwice, hunchanged htwice⟩

end Session

end FilterQuery
