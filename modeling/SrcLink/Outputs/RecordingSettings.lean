import SrcLink.Document.Json
import SrcLink.Outputs.BestFilename

/-! # The settings of a recording

The name of an output, which the host chooses, is put into the file name format of the
recording. The generator of file names and the file system belong to OBS and are
parameters.
-/

namespace SrcLink.RecordingSettings

open Json Json.QJsonObject QString RecordingFilename FirstFree

set_option autoImplicit false

inductive Platform where
  | apple
  | windows
  | other
  deriving DecidableEq, Repr

/-- The profile's configuration, by section and name. -/
structure Config where
  getString : String → String → String
  getBool : String → String → Bool

structure Environment where
  platform : Platform
  config : Config
  /-- `os_opendir` succeeds -/
  opens : String → Bool
  existing : Finset String
  /-- extension, whether there may be spaces, format -/
  osGenerateFormattedFilename : String → Bool → String → String

def isAdvancedMode (config : Config) : Bool :=
  config.getString "Output" "Mode" = "Advanced" || config.getString "Output" "Mode" = "advanced"

def getProfileRecordingPath (config : Config) : String :=
  if isAdvancedMode config then
    let ffmpegRecording := (config.getString "AdvOut" "RecType").toLower = "ffmpeg" &&
      config.getBool "AdvOut" "FFOutputToFile"
    config.getString "AdvOut" (if ffmpegRecording then "FFFilePath" else "RecFilePath")
  else config.getString "SimpleOutput" "FilePath"

/-- The characters that the platform's file names cannot have. -/
def sanitized : Platform → List Char
  | .apple => [':']
  | .windows => ['<', '>', ':', '"', '|', '?', '*']
  | .other => []

def sanitize (platform : Platform) (format : String) : String :=
  .ofList (format.toList.filter fun c => c ∉ sanitized platform)

def special : List Char :=
  ['/', '\\', '.', ':', ';', '*', '?', '"', '<', '>', '|', '&', '$', ',']

/-- What `\s` matches without Unicode properties; U+00A0 and U+3000 are no white space to it. -/
def isWhiteSpace (c : Char) : Bool := c ∈ [' ', '\t', '\n', '\x0b', '\x0c', '\r']

def isReplaced (noSpace : Bool) (c : Char) : Bool := c ∈ special || noSpace && isWhiteSpace c

def safeName (noSpace : Bool) (name : String) : String :=
  .ofList (name.toList.map fun c => if isReplaced noSpace c then '-' else c)

/-- The template of the settings, or else the one of the profile behind the name. -/
def template (config : Config) (egressSettings : QJsonObject) : String :=
  let filenameFormat := (egressSettings.value "filename_formatting").toString
  if filenameFormat = "" then "%1_" ++ config.getString "Output" "FilenameFormatting"
  else filenameFormat

def noSpaceFilename (egressSettings : QJsonObject) : Bool :=
  (egressSettings.value "no_space_filename").toBool

def filenameFormat (env : Environment) (name : String) (egressSettings : QJsonObject) : String :=
  arg (sanitize env.platform (template env.config egressSettings))
    (safeName (noSpaceFilename egressSettings) name)

def getFormatExt (container : String) : String :=
  let ext := if container = "fragmented_mp4" then "mp4" else container
  if ext = "hybrid_mp4" then "mp4"
  else if ext = "fragmented_mov" then "mov"
  else if ext = "hls" then "m3u8"
  else if ext = "mpegts" then "ts"
  else ext

def generateSpecifiedFilename (env : Environment) (extension : String) (noSpace : Bool)
    (format : String) : String :=
  env.osGenerateFormattedFilename extension (!noSpace) format

def withSlashes (path : String) : String :=
  .ofList (path.toList.map fun c => if c = '\\' then '/' else c)

/-- The directory that is made, if any. -/
def ensureDirectoryExists (path : String) : Option String :=
  (lastIndexOf (withSlashes path) '/').map fun last =>
    .ofList ((withSlashes path).toList.take last)

def isSeparator (c : Char) : Bool := c = '/' || c = '\\'

def withSeparator (path : String) : String :=
  if path.toList.getLast?.any isSeparator then path else path ++ "/"

structure OutputFile where
  path : String
  made : Option String

/-- None if the search for a free name does not end within `fuel` rounds. -/
def getOutputFilename (env : Environment) (fuel : ℕ) (path container : String)
    (noSpace overwrite : Bool) (format : String) : Option OutputFile :=
  if path ≠ "" ∧ env.opens path then
    let strPath := withSeparator path ++
      generateSpecifiedFilename env (getFormatExt container) noSpace format
    let found :=
      if overwrite then some strPath else findBestFilename env.existing fuel strPath noSpace
    found.map fun best => ⟨best, ensureDirectoryExists strPath⟩
  else some ⟨"", none⟩

def recordingPath (config : Config) (egressSettings : QJsonObject) : String :=
  if (egressSettings.value "use_profile_recording_path").toBool then
    getProfileRecordingPath config
  else (egressSettings.value "path").toString

def recFormat (egressSettings : QJsonObject) : String :=
  (egressSettings.value "rec_format").toString

def compositeFile (env : Environment) (fuel : ℕ) (name : String) (egressSettings : QJsonObject) :
    Option OutputFile :=
  getOutputFilename env fuel (recordingPath env.config egressSettings) (recFormat egressSettings)
    (noSpaceFilename egressSettings) false (filenameFormat env name egressSettings)

def splitSettings (env : Environment) (name : String) (egressSettings : QJsonObject)
    (splitFile : String) (recordingSettings : QJsonObject) : QJsonObject :=
  let maxTimeSec :=
    if splitFile = "by_time" then (egressSettings.value "split_file_time_mins").toInt * 60 else 0
  let maxSizeMb :=
    if splitFile = "by_size" then (egressSettings.value "split_file_size_mb").toInt else 0
  [("directory", .string (recordingPath env.config egressSettings)),
    ("format", .string (filenameFormat env name egressSettings)),
    ("extension", .string (getFormatExt (recFormat egressSettings))),
    ("allow_spaces", .bool false), ("allow_overwrite", .bool false), ("split_file", .bool true),
    ("max_time_sec", .double maxTimeSec), ("max_size_mb", .double maxSizeMb)].foldl
    (fun settings (item : String × QJsonValue) => settings.insert item.1 item.2) recordingSettings

def createRecordingSettings (env : Environment) (fuel : ℕ) (name : String)
    (egressSettings : QJsonObject) : Option QJsonObject :=
  (compositeFile env fuel name egressSettings).map fun file =>
    let recordingSettings := QJsonObject.insert [] "path" (.string file.path)
    let splitFile := (egressSettings.value "split_file").toString
    if splitFile ≠ "" then splitSettings env name egressSettings splitFile recordingSettings
    else recordingSettings

def separators (text : String) : List Char := text.toList.filter isSeparator

theorem isSeparator_iff (c : Char) : isSeparator c = true ↔ c = '/' ∨ c = '\\' := by
  rw [isSeparator, Bool.or_eq_true, decide_eq_true_eq, decide_eq_true_eq]

theorem isSeparator_eq_false_iff (c : Char) : isSeparator c = false ↔ c ≠ '/' ∧ c ≠ '\\' := by
  rw [← Bool.not_eq_true, isSeparator_iff, not_or]

theorem separators_append (text more : String) :
    separators (text ++ more) = separators text ++ separators more := by
  rw [separators, String.toList_append, List.filter_append]
  rfl

theorem separators_eq_nil_iff (text : String) :
    separators text = [] ↔ ∀ c ∈ text.toList, isSeparator c = false := by
  simp [separators, List.filter_eq_nil_iff]

theorem isReplaced_of_isSeparator {c : Char} (h : isSeparator c = true) (noSpace : Bool) :
    isReplaced noSpace c = true := by
  rcases (isSeparator_iff c).mp h with rfl | rfl
  · rfl
  · rfl

theorem not_isReplaced_of_mem_safeName {noSpace : Bool} {name : String} {c : Char}
    (h : c ∈ (safeName noSpace name).toList) : isReplaced noSpace c = false := by
  rw [safeName, String.toList_ofList] at h
  obtain ⟨original, -, rfl⟩ := List.mem_map.mp h
  split
  · cases noSpace <;> decide
  · next hKept => exact Bool.eq_false_iff.mpr hKept

theorem separators_safeName (noSpace : Bool) (name : String) :
    separators (safeName noSpace name) = [] := by
  rw [separators_eq_nil_iff]
  intro c hc
  by_contra hSeparator
  have hReplaced := isReplaced_of_isSeparator (Bool.not_eq_false _ ▸ hSeparator) noSpace
  rw [not_isReplaced_of_mem_safeName hc] at hReplaced
  cases hReplaced

theorem separators_sanitize (platform : Platform) (format : String) :
    separators (sanitize platform format) = separators format := by
  rw [separators, sanitize, String.toList_ofList, List.filter_filter]
  apply List.filter_congr
  intro c _
  cases hSeparator : isSeparator c with
  | false => rfl
  | true =>
    rcases (isSeparator_iff c).mp hSeparator with rfl | rfl
    · cases platform <;> rfl
    · cases platform <;> rfl

theorem isSeparator_of_isMarkerChar (c : Char) (h : isMarkerChar c = true) :
    isSeparator c = false := by
  apply (isSeparator_eq_false_iff c).mpr
  constructor
  · rintro rfl
    cases h
  · rintro rfl
    cases h

theorem separators_filenameFormat (env : Environment) (name : String)
    (egressSettings : QJsonObject) :
    separators (filenameFormat env name egressSettings) =
      separators (template env.config egressSettings) := by
  have hName := (separators_eq_nil_iff _).mp
    (separators_safeName (noSpaceFilename egressSettings) name)
  calc separators (filenameFormat env name egressSettings)
    _ = separators (sanitize env.platform (template env.config egressSettings)) :=
        filter_arg isSeparator_of_isMarkerChar hName _
    _ = separators (template env.config egressSettings) := separators_sanitize ..

theorem separators_numStr (noSpace : Bool) (num : ℕ) : separators (numStr noSpace num) = [] := by
  rw [separators_eq_nil_iff]
  intro c hc
  apply (isSeparator_eq_false_iff c).mpr
  constructor
  · rintro rfl
    exact notMem_numStr (by decide) (by decide) num hc
  · rintro rfl
    exact notMem_numStr (by decide) (by decide) num hc

theorem separators_testPath (strPath : String) (dotPos : ℕ) (noSpace : Bool) (num : ℕ) :
    separators (testPath strPath dotPos noSpace num) = separators strPath := by
  have hNumber : (numStr noSpace num).toList.filter isSeparator = [] :=
    separators_numStr noSpace num
  rw [separators, testPath, QString.insert, String.toList_ofList, List.filter_append,
    List.filter_append, hNumber, List.append_nil, ← List.filter_append, List.take_append_drop]
  rfl

theorem separators_findBestFilename {existing : Finset String} {fuel : ℕ}
    {strPath result : String} {noSpace : Bool}
    (h : findBestFilename existing fuel strPath noSpace = some result) :
    separators result = separators strPath := by
  rw [findBestFilename] at h
  split at h
  · obtain rfl := Option.some.inj h
    rfl
  · split at h
    · next dotPos _ =>
      rw [findFreePath_eq] at h
      obtain ⟨num, -, rfl⟩ := Option.map_eq_some_iff.mp h
      exact separators_testPath strPath dotPos noSpace num
    · cases h

/-- A generated name has no separators but those of the format and of the extension. -/
def KeepsSeparators (env : Environment) : Prop :=
  ∀ extension spaces format,
    ∀ c ∈ separators (env.osGenerateFormattedFilename extension spaces format),
      c ∈ format.toList ∨ c ∈ extension.toList

section Output

variable {env : Environment} {fuel : ℕ} {path container : String} {noSpace overwrite : Bool}
  {format : String} {file : OutputFile}

theorem separators_generateSpecifiedFilename (hGenerate : KeepsSeparators env)
    (hFormat : separators format = []) (extension : String) (noSpace : Bool) :
    ∀ c ∈ separators (generateSpecifiedFilename env extension noSpace format),
      c ∈ separators extension := by
  intro c hc
  have hSeparator := (List.mem_filter.mp hc).2
  rcases hGenerate extension (!noSpace) format c hc with hBad | hExtension
  · have hNone := (separators_eq_nil_iff format).mp hFormat c hBad
    rw [hSeparator] at hNone
    cases hNone
  · exact List.mem_filter.mpr ⟨hExtension, hSeparator⟩

theorem separators_getOutputFilename
    (h : getOutputFilename env fuel path container noSpace overwrite format = some file) :
    file = ⟨"", none⟩ ∨ separators file.path = separators (withSeparator path) ++
        separators (generateSpecifiedFilename env (getFormatExt container) noSpace format) ∧
      file.made = ensureDirectoryExists (withSeparator path ++
        generateSpecifiedFilename env (getFormatExt container) noSpace format) := by
  rw [getOutputFilename] at h
  split at h
  · obtain ⟨best, hBest, rfl⟩ := Option.map_eq_some_iff.mp h
    dsimp only
    refine .inr ⟨?_, rfl⟩
    rw [← separators_append]
    split at hBest
    · obtain rfl := Option.some.inj hBest
      rfl
    · exact separators_findBestFilename hBest
  · exact .inl (Option.some.inj h).symm

end Output

theorem withSeparator_eq (path : String) :
    ∃ directory c, (withSeparator path).toList = directory ++ [c] ∧ isSeparator c = true := by
  rw [withSeparator]
  split
  · next hLast =>
    cases hText : path.toList.getLast? with
    | none =>
      rw [hText] at hLast
      cases hLast
    | some c =>
      rw [hText] at hLast
      exact ⟨path.toList.dropLast, c, (List.dropLast_append_getLast? c hText).symm, hLast⟩
  · exact ⟨path.toList, '/', String.toList_append .., rfl⟩

/-- The configured directory, as it is made. -/
def configuredDirectory (path : String) : String :=
  .ofList ((withSlashes (withSeparator path)).toList.dropLast)

theorem ensureDirectoryExists_append (path : String) {file : String}
    (hFile : separators file = []) :
    ensureDirectoryExists (withSeparator path ++ file) = some (configuredDirectory path) := by
  obtain ⟨directory, c, hPath, hSeparator⟩ := withSeparator_eq path
  have hSlash : (if c = '\\' then '/' else c) = '/' := by
    rcases (isSeparator_iff c).mp hSeparator with rfl | rfl <;> rfl
  have hKept : ∀ c ∈ file.toList, (if c = '\\' then '/' else c) = c := by
    intro c hc
    have hNone := (separators_eq_nil_iff file).mp hFile c hc
    exact if_neg ((isSeparator_eq_false_iff c).mp hNone).2
  have hNoSlash : '/' ∉ file.toList := by
    intro hMem
    have hNone := (separators_eq_nil_iff file).mp hFile '/' hMem
    cases hNone
  have hDirectory : (withSlashes (withSeparator path)).toList =
      directory.map (fun c => if c = '\\' then '/' else c) ++ ['/'] := by
    rw [withSlashes, String.toList_ofList, hPath, List.map_append, List.map_singleton, hSlash]
  have hWhole : (withSlashes (withSeparator path ++ file)).toList =
      directory.map (fun c => if c = '\\' then '/' else c) ++ '/' :: file.toList := by
    rw [withSlashes, String.toList_ofList, String.toList_append, List.map_append,
      List.map_congr_left hKept, List.map_id', hPath, List.map_append, List.map_singleton, hSlash,
      List.append_assoc]
    rfl
  rw [ensureDirectoryExists, lastIndexOf_of_append hWhole hNoSlash, Option.map_some, hWhole,
    List.take_left, configuredDirectory, hDirectory, List.dropLast_concat]

theorem value_foldl_insert {items : List (String × QJsonValue)} {key : String}
    (hOther : key ∉ items.map Prod.fst) (settings : QJsonObject) :
    (items.foldl (fun settings item => settings.insert item.1 item.2) settings).value key =
      settings.value key := by
  induction items generalizing settings with
  | nil => rfl
  | cons item items ih =>
    rw [List.map_cons, List.mem_cons, not_or] at hOther
    rw [List.foldl_cons, ih hOther.2, value_insert_of_ne _ _ hOther.1]

theorem path_createRecordingSettings {env : Environment} {fuel : ℕ} {name : String}
    {egressSettings recordingSettings : QJsonObject}
    (h : createRecordingSettings env fuel name egressSettings = some recordingSettings) :
    ∃ file, compositeFile env fuel name egressSettings = some file ∧
      (recordingSettings.value "path").toString = file.path := by
  obtain ⟨file, hFile, rfl⟩ := Option.map_eq_some_iff.mp h
  refine ⟨file, hFile, ?_⟩
  dsimp only
  split
  · rw [splitSettings, value_foldl_insert (by simp), value_insert_self]
    rfl
  · rw [value_insert_self]
    rfl

structure Confined (env : Environment) (egressSettings : QJsonObject) (name : String) : Prop where
  format : separators (filenameFormat env name egressSettings) =
    separators (template env.config egressSettings)
  substituted : filenameFormat env name egressSettings =
    arg (sanitize env.platform (template env.config egressSettings))
      (safeName (noSpaceFilename egressSettings) name)
  /-- of the white space only what `\s` matches is replaced -/
  safe : ∀ c ∈ (safeName (noSpaceFilename egressSettings) name).toList,
    c ∉ special ∧ (noSpaceFilename egressSettings = true → isWhiteSpace c = false)
  /-- all that lies behind the directory comes from the extension -/
  path : separators (template env.config egressSettings) = [] →
    ∀ fuel recordingSettings,
      createRecordingSettings env fuel name egressSettings = some recordingSettings →
      (recordingSettings.value "path").toString = "" ∨
      ∃ more, separators (recordingSettings.value "path").toString =
          separators (withSeparator (recordingPath env.config egressSettings)) ++ more ∧
        ∀ c ∈ more, c ∈ separators (getFormatExt (recFormat egressSettings))
  made : separators (template env.config egressSettings) = [] →
    separators (getFormatExt (recFormat egressSettings)) = [] →
    ∀ fuel file directory, compositeFile env fuel name egressSettings = some file →
      file.made = some directory →
      directory = configuredDirectory (recordingPath env.config egressSettings)

theorem safe_safeName {noSpace : Bool} {name : String} {c : Char}
    (h : c ∈ (safeName noSpace name).toList) :
    c ∉ special ∧ (noSpace = true → isWhiteSpace c = false) := by
  have hKept := not_isReplaced_of_mem_safeName h
  rw [isReplaced, Bool.or_eq_false_iff, decide_eq_false_iff_not] at hKept
  refine ⟨hKept.1, ?_⟩
  rintro rfl
  exact hKept.2

theorem confined {env : Environment} (hGenerate : KeepsSeparators env)
    (egressSettings : QJsonObject) (name : String) : Confined env egressSettings name where
  format := separators_filenameFormat env name egressSettings
  substituted := rfl
  safe _ := safe_safeName
  path := by
    intro hTemplate fuel recordingSettings hCreated
    obtain ⟨file, hFile, hPath⟩ := path_createRecordingSettings hCreated
    rw [hPath]
    rcases separators_getOutputFilename hFile with rfl | ⟨hSeparators, -⟩
    · exact .inl rfl
    · refine .inr ⟨_, hSeparators, ?_⟩
      apply separators_generateSpecifiedFilename hGenerate
      rw [separators_filenameFormat, hTemplate]
  made := by
    intro hTemplate hExtension fuel file directory hFile hMade
    rcases separators_getOutputFilename hFile with rfl | ⟨-, hEnsured⟩
    · cases hMade
    · -- neither the template nor the extension brings a separator
      have hNone : separators (generateSpecifiedFilename env
          (getFormatExt (recFormat egressSettings)) (noSpaceFilename egressSettings)
          (filenameFormat env name egressSettings)) = [] := by
        apply List.eq_nil_iff_forall_not_mem.mpr
        intro c hc
        have hMem := separators_generateSpecifiedFilename hGenerate
          ((separators_filenameFormat env name egressSettings).trans hTemplate) _ _ c hc
        rw [hExtension] at hMem
        cases hMem
      rw [hEnsured, ensureDirectoryExists_append _ hNone] at hMade
      exact (Option.some.inj hMade).symm

theorem names_confined {env : Environment} (hGenerate : KeepsSeparators env)
    (egressSettings : QJsonObject) (name name' : String) :
    Confined env egressSettings name ∧ Confined env egressSettings name' ∧
      separators (filenameFormat env name egressSettings) =
        separators (filenameFormat env name' egressSettings) :=
  ⟨confined hGenerate egressSettings name, confined hGenerate egressSettings name',
    (separators_filenameFormat ..).trans (separators_filenameFormat ..).symm⟩

/-- OBS for a format without specifiers and spaces. -/
def plainEnvironment : Environment where
  platform := .other
  config := ⟨fun _ _ => "", fun _ _ => false⟩
  opens := fun _ => true
  existing := {}
  osGenerateFormattedFilename := fun extension _ format => format ++ "." ++ extension

theorem keepsSeparators_plainEnvironment : KeepsSeparators plainEnvironment := by
  intro extension spaces format c hc
  have hDot : separators "." = [] := by decide
  have hText : separators (format ++ "." ++ extension) =
      separators format ++ separators extension := by
    rw [separators_append, separators_append, hDot, List.append_nil]
  rcases List.mem_append.mp (hText ▸ hc) with hFormat | hExtension
  · exact .inl (List.mem_filter.mp hFormat).1
  · exact .inr (List.mem_filter.mp hExtension).1

theorem names_confined_climbing :
    Confined plainEnvironment [("path", .string "/v"), ("rec_format", .string "mkv")] "../../a" ∧
    Confined plainEnvironment [("path", .string "/v"), ("rec_format", .string "mkv")] "b" ∧
    separators (filenameFormat plainEnvironment "../../a"
        [("path", .string "/v"), ("rec_format", .string "mkv")]) =
      separators (filenameFormat plainEnvironment "b"
        [("path", .string "/v"), ("rec_format", .string "mkv")]) :=
  names_confined keepsSeparators_plainEnvironment
    [("path", .string "/v"), ("rec_format", .string "mkv")] "../../a" "b"

/-- An ideographic space passes the pattern. -/
theorem whiteSpace_kept :
    ¬∀ (env : Environment) (egressSettings : QJsonObject) (name : String),
      noSpaceFilename egressSettings = true → template env.config egressSettings = "%1" →
        ∀ c ∈ (filenameFormat env name egressSettings).toList, isSpace c = false := by
  intro hAll
  have hSpace := hAll plainEnvironment
    [("filename_formatting", .string "%1"), ("no_space_filename", .bool true)] "a\u3000b"
    rfl rfl '\u3000' (by decide +kernel)
  cases hSpace

end SrcLink.RecordingSettings
