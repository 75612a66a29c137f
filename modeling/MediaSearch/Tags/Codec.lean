/-
MediaSearch/Tags/Codec.lean

Tag filters in JSON.
-/
import MediaSearch.Json.Record
import MediaSearch.Tags.Filter

namespace MediaSearch

open Json

/-- Lists of texts as arrays of strings. -/
def Json.strings : Codec (List String) := .list .string

/-- Tag filters as objects. -/
def TagFilter.record : Record TagFilter where
  title := "TagFilter"
  fields :=
    [.of "pos_match_all" strings (·.requireAll) ({ · with requireAll := · }),
      .of "pos_match_any" strings (·.requireAny) ({ · with requireAny := · }),
      .of "neg_match_any" strings (·.rejectAny) ({ · with rejectAny := · }),
      .of "neg_match_all" strings (·.rejectAll) ({ · with rejectAll := · }),
      .of "all_setters_required" .bool (·.everySetter) ({ · with everySetter := · }),
      .of "setters" strings (·.setters) ({ · with setters := · }),
      .of "namespaces" strings (·.namespaces) ({ · with namespaces := · }),
      .of "min_confidence" (.option .f64) (·.minConfidence) ({ · with minConfidence := · })]
  initial := {}

/-- Tag filters are read from texts and written as objects. -/
def TagFilter.codec : Codec TagFilter := TagFilter.record.codec

end MediaSearch
