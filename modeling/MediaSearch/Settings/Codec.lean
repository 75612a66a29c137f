/-
MediaSearch/Settings/Codec.lean

Settings in JSON.
-/
import MediaSearch.Json.Record
import MediaSearch.Settings

namespace MediaSearch

open Json

/-- Settings for logging as objects. -/
def LoggingSettings.record : Record LoggingSettings where
  title := "LoggingConfig"
  fields :=
    [.of "level" .string (·.level) ({ · with level := · }),
      .of "file_logging" .bool (·.toFile) ({ · with toFile := · }),
      .of "directory" .string (·.directory) ({ · with directory := · })]
  initial := {}

/-- Settings as objects. -/
def Settings.record : Record Settings where
  title := "SearchConfig"
  fields :=
    [.of "default_page_size" .u64 (·.defaultPageSize) ({ · with defaultPageSize := · }),
      .of "unbounded_page_size" .u64 (·.unboundedPageSize) ({ · with unboundedPageSize := · }),
      .of "min_tag_confidence" (.option .f64) (·.minTagConfidence)
        ({ · with minTagConfidence := · }),
      .of "check_path_by_default" .bool (·.checkPath) ({ · with checkPath := · }),
      .of "logging" LoggingSettings.record.codec (·.logging) ({ · with logging := · })]
  initial := {}

/-- Settings are read from texts and written as objects. -/
def Settings.codec : Codec Settings := Settings.record.codec

end MediaSearch
