import DataLayer.Document
import DataLayer.Settings

/-! Reading settings from structured documents. Every option may be absent, and a name that is no
option is refused. -/

namespace DataLayer.Settings

open Document

variable {δ : Type} [Document δ]

/-- The names of all options in documents. -/
def optionNames : List String :=
  ["export_file_name", "code_namespace", "namespace_start_code", "additional_namespaces",
   "class_prefix", "view_prefix", "member_prefix", "base_class_for_tables",
   "make_names_lowercase", "selected_tables", "excluded_tables", "excluded_tables_prefix",
   "catalog_schema", "dont_inject_infrastructure_classes", "dont_inject_basic_sql_provider",
   "dont_inject_linq_helpers", "generate_query_object", "generate_sql_statements", "clips_dir",
   "use_sps", "sp_class_name", "sp_prefix", "use_sp_with_tables", "prefix_sp_with_tables",
   "sp_data_wrapper_flag", "sp_data_wrapper_autotrim", "sp_sample_timeout_secs",
   "sp_sample_with_dummy_args"]

/-- Reads settings; absent options keep their defaults. -/
def read (value : δ) : Decoding Settings := do
  let record ← closedRecord optionNames value
  let standard : Settings := {}
  pure
    { exportFile := ← withDefault record "export_file_name" text standard.exportFile
      codeNamespace := ← withDefault record "code_namespace" text standard.codeNamespace
      startCode := ← withDefault record "namespace_start_code" (optionOf text) standard.startCode
      additionalNamespaces :=
        ← withDefault record "additional_namespaces" (listOf text) standard.additionalNamespaces
      classPrefix := ← withDefault record "class_prefix" text standard.classPrefix
      viewPrefix := ← withDefault record "view_prefix" text standard.viewPrefix
      memberPrefix := ← withDefault record "member_prefix" text standard.memberPrefix
      baseClass := ← withDefault record "base_class_for_tables" (optionOf text) standard.baseClass
      lowercaseNames := ← withDefault record "make_names_lowercase" flag standard.lowercaseNames
      selectedTables :=
        ← withDefault record "selected_tables" (listOf text) standard.selectedTables
      excludedTables :=
        ← withDefault record "excluded_tables" (listOf text) standard.excludedTables
      excludedPrefix :=
        ← withDefault record "excluded_tables_prefix" (optionOf text) standard.excludedPrefix
      catalogSchema := ← withDefault record "catalog_schema" text standard.catalogSchema
      omitInfrastructure :=
        ← withDefault record "dont_inject_infrastructure_classes" flag
          standard.omitInfrastructure
      omitProvider :=
        ← withDefault record "dont_inject_basic_sql_provider" flag standard.omitProvider
      omitContext := ← withDefault record "dont_inject_linq_helpers" flag standard.omitContext
      queryObjects := ← withDefault record "generate_query_object" flag standard.queryObjects
      sqlStatements := ← withDefault record "generate_sql_statements" flag standard.sqlStatements
      clipsDirectory := ← withDefault record "clips_dir" (optionOf text) standard.clipsDirectory
      useProcedures := ← withDefault record "use_sps" flag standard.useProcedures
      procedureClass := ← withDefault record "sp_class_name" text standard.procedureClass
      procedurePrefix := ← withDefault record "sp_prefix" text standard.procedurePrefix
      dataProcedures := ← withDefault record "use_sp_with_tables" flag standard.dataProcedures
      dataPrefix := ← withDefault record "prefix_sp_with_tables" text standard.dataPrefix
      wrapperFlag :=
        ← withDefault record "sp_data_wrapper_flag" (optionOf text) standard.wrapperFlag
      trimResults := ← withDefault record "sp_data_wrapper_autotrim" flag standard.trimResults
      sampleSeconds :=
        ← withDefault record "sp_sample_timeout_secs" (optionOf word64) standard.sampleSeconds
      sampleWithArguments :=
        ← withDefault record "sp_sample_with_dummy_args" flag standard.sampleWithArguments }

end DataLayer.Settings
