/-
MediaSearch/Proofs/Settings/Loading.lean

Loaded settings, and the pages that they give.

Settings are loaded from the file of a directory, or are the defaults where
there is none (`Found`); either way they are the ones that were found, made
usable (`load_eq_ok_iff`).  Usable settings are fixed by `sanitized`, and what
it changes in others are the two page sizes, each only where it cannot be used
(`repaired_sanitized`).  The stand-in for everything is repaired first, since a
missing page size is replaced by it.

Under usable settings every page has a size of at least 1, so its limit is at
least 1 as well, and the limit of everything is the stand-in itself.

Main result: `load_windows`.
-/
import MediaSearch.Proofs.Compile.Window
import MediaSearch.Settings.File

namespace MediaSearch.Settings

open Sql

/-! ### Usable settings -/

/-- Whether a store takes a number as the limit of a page that is not empty. -/
def IsLimit (n : UInt64) : Prop :=
  1 ≤ n.toNat ∧ n.toNat ≤ 2 ^ 63 - 1

/-- Whether both page sizes can be used: at least one row a page, and a limit
that stands for everything. -/
structure Usable (settings : Settings) : Prop where
  one_le_default : 1 ≤ settings.defaultPageSize.toNat
  unbounded_isLimit : IsLimit settings.unboundedPageSize

/-- How usable settings come from others: only the page sizes differ, and each
of them only if it could not be used.  The stand-in for everything then is the
largest limit, and the page size that stand-in. -/
structure Repaired (found settings : Settings) : Prop where
  others : settings = { found with
    unboundedPageSize := settings.unboundedPageSize
    defaultPageSize := settings.defaultPageSize }
  unbounded_kept : IsLimit found.unboundedPageSize →
    settings.unboundedPageSize = found.unboundedPageSize
  unbounded_replaced : ¬IsLimit found.unboundedPageSize →
    settings.unboundedPageSize.toNat = 2 ^ 63 - 1
  default_kept : 1 ≤ found.defaultPageSize.toNat →
    settings.defaultPageSize = found.defaultPageSize
  default_replaced : found.defaultPageSize = 0 →
    settings.defaultPageSize = settings.unboundedPageSize

theorem one_le_toNat_iff {n : UInt64} : 1 ≤ n.toNat ↔ n ≠ 0 := by
  rw [Nat.one_le_iff_ne_zero, ne_eq, ne_eq, ← UInt64.toNat_inj, UInt64.toNat_zero]

/-- The numbers that are replaced are those that are no limits. -/
theorem replaced_iff {n : UInt64} : n = 0 ∨ maxLimit < n ↔ ¬IsLimit n := by
  have most : maxLimit.toNat = 2 ^ 63 - 1 := rfl
  rw [IsLimit, UInt64.lt_iff_toNat_lt, most, ← UInt64.toNat_inj, UInt64.toNat_zero]
  omega

variable {settings : Settings}

theorem unbounded_sanitized_of_isLimit (limit : IsLimit settings.unboundedPageSize) :
    settings.sanitized.unboundedPageSize = settings.unboundedPageSize :=
  if_neg fun replaced => replaced_iff.mp replaced limit

theorem unbounded_sanitized_of_not (noLimit : ¬IsLimit settings.unboundedPageSize) :
    settings.sanitized.unboundedPageSize = maxLimit :=
  if_pos (replaced_iff.mpr noLimit)

theorem default_sanitized_of_one_le (some : 1 ≤ settings.defaultPageSize.toNat) :
    settings.sanitized.defaultPageSize = settings.defaultPageSize :=
  if_neg (one_le_toNat_iff.mp some)

/-- The page size is replaced by the stand-in as it is afterwards. -/
theorem default_sanitized_of_zero (none : settings.defaultPageSize = 0) :
    settings.sanitized.defaultPageSize = settings.sanitized.unboundedPageSize :=
  if_pos none

variable (settings)

/-- Settings can be used after they are sanitized. -/
theorem usable_sanitized : settings.sanitized.Usable := by
  have unbounded : IsLimit settings.sanitized.unboundedPageSize := by
    by_cases limit : IsLimit settings.unboundedPageSize
    · rwa [unbounded_sanitized_of_isLimit limit]
    · rw [unbounded_sanitized_of_not limit]
      exact ⟨by decide, by decide⟩
  refine ⟨?_, unbounded⟩
  by_cases none : settings.defaultPageSize = 0
  · rw [default_sanitized_of_zero none]
    exact unbounded.1
  · have some := one_le_toNat_iff.mpr none
    rwa [default_sanitized_of_one_le some]

/-- Sanitizing repairs what cannot be used and leaves the rest. -/
theorem repaired_sanitized : Repaired settings settings.sanitized where
  others := rfl
  unbounded_kept := unbounded_sanitized_of_isLimit
  unbounded_replaced noLimit := by
    rw [unbounded_sanitized_of_not noLimit]
    rfl
  default_kept := default_sanitized_of_one_le
  default_replaced := default_sanitized_of_zero

variable {settings}

/-- Usable settings stay as they are. -/
theorem Usable.sanitized_eq (usable : settings.Usable) : settings.sanitized = settings := by
  have repaired := settings.repaired_sanitized
  rw [repaired.others, repaired.unbounded_kept usable.unbounded_isLimit,
    repaired.default_kept usable.one_le_default]

theorem usable_initial : Usable {} :=
  ⟨by decide, by decide, by decide⟩

/-- With settings that can be used, a page has at least one row. -/
theorem Usable.one_le_pageSize (usable : settings.Usable) (requested : Option UInt64) :
    1 ≤ (settings.pageSize requested).toNat := by
  cases requested with
  | none => exact usable.one_le_default
  | some n =>
    show 1 ≤ (if n = 0 then settings.unboundedPageSize else n).toNat
    split
    · exact usable.unbounded_isLimit.1
    · next some => exact one_le_toNat_iff.mpr some

/-! ### Loading -/

/-- Settings as a directory has them: what its file says, or the defaults,
which are written for lack of a file. -/
inductive Found (directory : String) (tree : FileTree) : Settings → Prop
  | file {text : String} {found : Settings}
      (present : tree.contains (FileTree.joinPath directory fileName) = true)
      (read : tree.readText (FileTree.joinPath directory fileName) = .ok text)
      (decoded : codec.decodeText text = .ok found) : Found directory tree found
  | defaults (absent : tree.contains (FileTree.joinPath directory fileName) = false)
      (written : (({} : Settings).save directory tree).1 = .ok ()) : Found directory tree {}

/-- Text is accepted if it can be decoded, and what it says is made usable. -/
theorem ofFileText_eq_ok_iff {text : String} :
    ofFileText text = .ok settings
      ↔ ∃ found, codec.decodeText text = .ok found ∧ settings = found.sanitized := by
  unfold ofFileText
  cases codec.decodeText text <;> simp [eq_comm]

section Load

variable {directory : String} {tree : FileTree}

/-- A file that is there is read. -/
theorem load_present (present : tree.contains (FileTree.joinPath directory fileName) = true) :
    (load directory tree).1 = match tree.readText (FileTree.joinPath directory fileName) with
      | .error e => .error (.io (FileTree.joinPath directory fileName) e)
      | .ok text => ofFileText text := by
  unfold load
  rw [if_pos present]
  cases tree.readText (FileTree.joinPath directory fileName) <;> rfl

/-- Where there is no file, one with the defaults is written. -/
theorem load_absent (absent : tree.contains (FileTree.joinPath directory fileName) = false) :
    (load directory tree).1 = (({} : Settings).save directory tree).1.map fun _ => {} := by
  have missing : ¬tree.contains (FileTree.joinPath directory fileName) = true := by
    rw [absent]
    decide
  unfold load
  rw [if_neg missing]

/-- **Loaded settings are the ones that were found, made usable.** -/
theorem load_eq_ok_iff :
    (load directory tree).1 = .ok settings
      ↔ ∃ found, Found directory tree found ∧ settings = found.sanitized := by
  constructor
  · intro loaded
    -- a file that is there is read, and otherwise the defaults are written and used
    cases contained : tree.contains (FileTree.joinPath directory fileName) with
    | true =>
      rw [load_present contained] at loaded
      cases read : tree.readText (FileTree.joinPath directory fileName) with
      | error e => rw [read] at loaded; cases loaded
      | ok text =>
        rw [read] at loaded
        obtain ⟨found, decoded, rfl⟩ := ofFileText_eq_ok_iff.mp loaded
        exact ⟨found, .file contained read decoded, rfl⟩
    | false =>
      rw [load_absent contained] at loaded
      cases written : (({} : Settings).save directory tree).1 with
      | error e => rw [written] at loaded; cases loaded
      | ok _ =>
        rw [written] at loaded
        cases loaded
        exact ⟨{}, .defaults contained written, usable_initial.sanitized_eq.symm⟩
  · rintro ⟨found, there, rfl⟩
    cases there with
    | file present read decoded =>
      rw [load_present present, read]
      exact ofFileText_eq_ok_iff.mpr ⟨found, decoded, rfl⟩
    | defaults absent written =>
      rw [load_absent absent, written, usable_initial.sanitized_eq]
      rfl

end Load

/-! ### A settings file by itself -/

/-- A tree with nothing but a settings file, which stands at its root. -/
def onlyFile (text : String) : FileTree where
  entries := [([fileName], .file text.toUTF8)]
  current := []

/-- The name of the settings file is a path of one name. -/
theorem splitOn_fileName : fileName.splitOn "/" = [fileName] := by
  simp +decide [fileName, String.splitOn, String.splitOnAux]

theorem find_onlyFile (text : String) :
    (onlyFile text).find fileName = .ok (.file text.toUTF8) := by
  have resolved : (onlyFile text).resolve fileName = .ok [fileName] := by
    rw [FileTree.resolve, splitOn_fileName]
    simp +decide [FileTree.followPath, FileTree.follow, FileTree.entry?, onlyFile]
  rw [FileTree.find, resolved]
  rfl

/-- Every text can be the settings file of a directory, and is read there. -/
theorem load_onlyFile (text : String) : (load "" (onlyFile text)).1 = ofFileText text := by
  have path : FileTree.joinPath "" fileName = fileName := by decide +kernel
  have valid : String.fromUTF8? text.toUTF8 = some text := dif_pos text.isValidUTF8
  have present : (onlyFile text).contains fileName = true := by
    rw [FileTree.contains, find_onlyFile]
    rfl
  have read : (onlyFile text).readText fileName = .ok text := by
    simp only [FileTree.readText, find_onlyFile, bind, Except.bind, valid]
    rfl
  rw [← path] at present read
  rw [load_present present, read]

/-! ### Main result -/

/-- **Loaded settings give exact pages.**  They are the ones that were found,
made usable, and are not changed when that is done again.  Every request is
compiled under them, to a page whose limit and offset are the exact numbers as
far as a store takes them; the last two parameters of the fetch statement are
these, and the first page of everything starts at the first row and has the
stand-in as its limit. -/
theorem load_windows {directory : String} {tree : FileTree}
    (loaded : (load directory tree).1 = .ok settings) :
    (∃ found, Found directory tree found ∧ Repaired found settings)
      ∧ settings.Usable ∧ settings.sanitized = settings
      ∧ ∀ request : Request, ∃ compiled, settings.compile request = .ok compiled
        ∧ ExactWindow request.paging.page (settings.pageSize request.paging.pageSize)
            compiled.limit compiled.offset
        ∧ 1 ≤ compiled.limit ∧ 0 ≤ compiled.offset
        ∧ (request.paging.pageSize = some 0 → request.paging.page ≤ 1 →
          compiled.offset = 0 ∧ compiled.limit.toInt = settings.unboundedPageSize.toNat)
        ∧ ∃ front, compiled.fetch.fragment = front
            ++ ⟨" LIMIT ? OFFSET ?", [.integer compiled.limit, .integer compiled.offset]⟩ := by
  obtain ⟨found, there, rfl⟩ := load_eq_ok_iff.mp loaded
  have usable := found.usable_sanitized
  refine ⟨⟨found, there, found.repaired_sanitized⟩, usable, usable.sanitized_eq, ?_⟩
  intro request
  have window := found.sanitized.window_exact request.paging
  refine ⟨_, compile_eq_ok _ request, window, window.one_le_limit (usable.one_le_pageSize _),
    window.zero_le_offset, fun everything first => ⟨window.offset_eq_zero first, ?_⟩, _, rfl⟩
  -- zero asks for everything, for which the settings have a stand-in
  have standIn : found.sanitized.pageSize request.paging.pageSize
      = found.sanitized.unboundedPageSize := by
    rw [everything]
    rfl
  have fits := usable.unbounded_isLimit.2
  have limit := window.limit_exact
  rw [standIn] at limit
  exact limit.trans (by omega)

/-- A settings file without rows on a page, and with a stand-in for everything
that is larger than all limits by one. -/
def unusableText : String :=
  "\x7b\"default_page_size\": 0, \"unbounded_page_size\": 9223372036854775808\x7d"

/-- Both page sizes of the file are replaced, and the offset of the fourth page
is as large as it can be: the product is larger than a word. -/
theorem load_windows_unusableText :
    (load "" (onlyFile unusableText)).1
        = .ok { defaultPageSize := maxLimit, unboundedPageSize := maxLimit }
      ∧ ∃ compiled,
        compile { defaultPageSize := maxLimit, unboundedPageSize := maxLimit }
          { paging := { page := 4, pageSize := some 0 } } = .ok compiled
        ∧ compiled.limit.toInt = 2 ^ 63 - 1 ∧ compiled.offset.toInt = 2 ^ 63 - 1 := by
  have decoded : codec.decodeText unusableText
      = .ok { defaultPageSize := 0, unboundedPageSize := 9223372036854775808 } := by
    have value : (codec.decodeText unusableText).toOption
        = some { defaultPageSize := 0, unboundedPageSize := 9223372036854775808 } := by
      decide +kernel
    cases accepted : codec.decodeText unusableText with
    | error fault =>
      rw [accepted] at value
      cases value
    | ok found =>
      rw [accepted] at value
      exact congrArg Except.ok (Option.some.inj value)
  have loaded : (load "" (onlyFile unusableText)).1
      = .ok { defaultPageSize := maxLimit, unboundedPageSize := maxLimit } :=
    (load_onlyFile _).trans (ofFileText_eq_ok_iff.mpr ⟨_, decoded, by decide⟩)
  obtain ⟨-, -, -, pages⟩ := load_windows loaded
  obtain ⟨compiled, compiles, window, -⟩ :=
    pages { paging := { page := 4, pageSize := some 0 } }
  exact ⟨loaded, compiled, compiles, window.limit_exact.trans (by decide),
    window.offset_exact.trans (by decide)⟩

end MediaSearch.Settings
