namespace DartModels.Sql

/-- What is known of a function that the language defines. -/
structure Signature where
  /-- What a call of it makes. -/
  construct : String
  /-- The arguments that have to be given, which come first. -/
  required : List String
  /-- How many arguments may be given, if there is a limit. -/
  most : Option Nat
  /-- Its names in capitals. -/
  names : List String
deriving DecidableEq, Repr

/-- The functions of many rows. -/
def aggregateFunctions : List Signature :=
  [⟨"aggregate.Agg", ["this"], some 1, ["AGG"]⟩,
    ⟨"aggregate.AiAgg", ["this", "expression"], some 2, ["AI_AGG"]⟩,
    ⟨"aggregate.AiSummarizeAgg", ["this"], some 1, ["AI_SUMMARIZE_AGG"]⟩,
    ⟨"aggregate.AnyValue", ["this"], some 1, ["ANY_VALUE"]⟩,
    ⟨"aggregate.ApproxDistinct", ["this"], some 2, ["APPROX_COUNT_DISTINCT", "APPROX_DISTINCT"]⟩,
    ⟨"aggregate.ApproxPercentileAccumulate", ["this"], some 1, ["APPROX_PERCENTILE_ACCUMULATE"]⟩,
    ⟨"aggregate.ApproxPercentileCombine", ["this"], some 1, ["APPROX_PERCENTILE_COMBINE"]⟩,
    ⟨"aggregate.ApproxPercentileEstimate", ["this", "expression"], some 2,
      ["APPROX_PERCENTILE_ESTIMATE"]⟩,
    ⟨"aggregate.ApproxQuantile", ["this", "quantile"], some 5, ["APPROX_QUANTILE"]⟩,
    ⟨"aggregate.ApproxQuantiles", ["this"], some 2, ["APPROX_QUANTILES"]⟩,
    ⟨"aggregate.ApproxTopK", ["this"], some 3, ["APPROX_TOP_K"]⟩,
    ⟨"aggregate.ApproxTopKAccumulate", ["this"], some 2, ["APPROX_TOP_K_ACCUMULATE"]⟩,
    ⟨"aggregate.ApproxTopKCombine", ["this"], some 2, ["APPROX_TOP_K_COMBINE"]⟩,
    ⟨"aggregate.ApproxTopKEstimate", ["this"], some 2, ["APPROX_TOP_K_ESTIMATE"]⟩,
    ⟨"aggregate.ApproxTopSum", ["this", "expression", "args"], some 3, ["APPROX_TOP_SUM"]⟩,
    ⟨"aggregate.ApproximateJaccardIndex", ["this"], some 1, ["APPROXIMATE_JACCARD_INDEX"]⟩,
    ⟨"aggregate.ApproximateSimilarity", ["this"], some 1, ["APPROXIMATE_SIMILARITY"]⟩,
    ⟨"aggregate.ArrayAgg", ["this"], some 2, ["ARRAYAGG", "ARRAY_AGG"]⟩,
    ⟨"aggregate.ArrayConcatAgg", ["this"], some 1, ["ARRAY_CONCAT_AGG"]⟩,
    ⟨"aggregate.ArrayUnionAgg", ["this"], some 1, ["ARRAY_UNION_AGG"]⟩,
    ⟨"aggregate.ArrayUniqueAgg", ["this"], some 1, ["ARRAY_UNIQUE_AGG"]⟩,
    ⟨"aggregate.Avg", ["this"], some 1, ["AVG"]⟩,
    ⟨"aggregate.BitmapConstructAgg", ["this"], some 1, ["BITMAP_CONSTRUCT_AGG"]⟩,
    ⟨"aggregate.BitmapOrAgg", ["this"], some 1, ["BITMAP_OR_AGG"]⟩,
    ⟨"aggregate.BitwiseAndAgg", ["this"], some 1, ["BITWISE_AND_AGG", "BIT_AND"]⟩,
    ⟨"aggregate.BitwiseOrAgg", ["this"], some 1, ["BITWISE_OR_AGG", "BIT_OR"]⟩,
    ⟨"aggregate.BitwiseXorAgg", ["this"], some 1, ["BITWISE_XOR_AGG", "BIT_XOR"]⟩,
    ⟨"aggregate.BoolxorAgg", ["this"], some 1, ["BOOLXOR_AGG"]⟩,
    ⟨"aggregate.Corr", ["this", "expression"], some 3, ["CORR"]⟩,
    ⟨"aggregate.Count", [], none, ["COUNT"]⟩,
    ⟨"aggregate.CountIf", ["this"], some 1, ["COUNTIF", "COUNT_IF"]⟩,
    ⟨"aggregate.CovarPop", ["this", "expression"], some 2, ["COVAR_POP"]⟩,
    ⟨"aggregate.CovarSamp", ["this", "expression"], some 2, ["COVAR_SAMP"]⟩,
    ⟨"aggregate.CumeDist", [], none, ["CUME_DIST"]⟩,
    ⟨"aggregate.DenseRank", [], none, ["DENSE_RANK"]⟩,
    ⟨"aggregate.First", ["this"], some 2, ["FIRST"]⟩,
    ⟨"aggregate.FirstValue", ["this"], some 1, ["FIRST_VALUE"]⟩,
    ⟨"aggregate.GroupConcat", ["this"], some 3, ["GROUP_CONCAT"]⟩,
    ⟨"aggregate.Grouping", ["expressions"], none, ["GROUPING"]⟩,
    ⟨"aggregate.GroupingId", [], none, ["GROUPING_ID"]⟩,
    ⟨"aggregate.HashAgg", ["expressions"], none, ["HASH_AGG"]⟩,
    ⟨"aggregate.Hll", ["this"], none, ["HLL"]⟩,
    ⟨"json.JSONBObjectAgg", ["this", "expression"], some 2, ["JSONB_OBJECT_AGG"]⟩,
    ⟨"json.JSONObjectAgg", [], some 5, ["JSON_OBJECT_AGG"]⟩,
    ⟨"aggregate.Kurtosis", ["this"], some 1, ["KURTOSIS"]⟩,
    ⟨"aggregate.Lag", ["this"], some 3, ["LAG"]⟩,
    ⟨"aggregate.Last", ["this"], some 2, ["LAST"]⟩,
    ⟨"aggregate.LastValue", ["this"], some 1, ["LAST_VALUE"]⟩,
    ⟨"aggregate.Lead", ["this"], some 3, ["LEAD"]⟩,
    ⟨"aggregate.LogicalAnd", ["this"], some 1, ["BOOLAND_AGG", "BOOL_AND", "LOGICAL_AND"]⟩,
    ⟨"aggregate.LogicalOr", ["this"], some 1, ["BOOLOR_AGG", "BOOL_OR", "LOGICAL_OR"]⟩,
    ⟨"aggregate.Max", ["this"], none, ["MAX"]⟩,
    ⟨"aggregate.Median", ["this"], some 1, ["MEDIAN"]⟩,
    ⟨"aggregate.Min", ["this"], none, ["MIN"]⟩,
    ⟨"aggregate.Minhash", ["this", "expressions"], none, ["MINHASH"]⟩,
    ⟨"aggregate.MinhashCombine", ["this"], some 1, ["MINHASH_COMBINE"]⟩,
    ⟨"aggregate.Mode", [], some 2, ["MODE"]⟩,
    ⟨"aggregate.NthValue", ["this", "expression"], some 3, ["NTH_VALUE"]⟩,
    ⟨"aggregate.Ntile", [], some 1, ["NTILE"]⟩,
    ⟨"aggregate.ObjectAgg", ["this", "expression"], some 2, ["OBJECT_AGG"]⟩,
    ⟨"aggregate.PercentRank", [], none, ["PERCENT_RANK"]⟩,
    ⟨"aggregate.PercentileCont", ["this"], some 2, ["PERCENTILE_CONT"]⟩,
    ⟨"aggregate.PercentileDisc", ["this"], some 2, ["PERCENTILE_DISC"]⟩,
    ⟨"aggregate.Quantile", ["this", "quantile"], some 2, ["QUANTILE"]⟩,
    ⟨"aggregate.Rank", [], none, ["RANK"]⟩,
    ⟨"aggregate.RegrAvgx", ["this", "expression"], some 2, ["REGR_AVGX"]⟩,
    ⟨"aggregate.RegrAvgy", ["this", "expression"], some 2, ["REGR_AVGY"]⟩,
    ⟨"aggregate.RegrCount", ["this", "expression"], some 2, ["REGR_COUNT"]⟩,
    ⟨"aggregate.RegrIntercept", ["this", "expression"], some 2, ["REGR_INTERCEPT"]⟩,
    ⟨"aggregate.RegrR2", ["this", "expression"], some 2, ["REGR_R2"]⟩,
    ⟨"aggregate.RegrSxx", ["this", "expression"], some 2, ["REGR_SXX"]⟩,
    ⟨"aggregate.RegrSxy", ["this", "expression"], some 2, ["REGR_SXY"]⟩,
    ⟨"aggregate.RegrSyy", ["this", "expression"], some 2, ["REGR_SYY"]⟩,
    ⟨"aggregate.RegrValx", ["this", "expression"], some 2, ["REGR_VALX"]⟩,
    ⟨"aggregate.RegrValy", ["this", "expression"], some 2, ["REGR_VALY"]⟩,
    ⟨"aggregate.Skewness", ["this"], some 1, ["SKEWNESS"]⟩,
    ⟨"aggregate.Stddev", ["this"], some 1, ["STDDEV", "STDEV"]⟩,
    ⟨"aggregate.StddevPop", ["this"], some 1, ["STDDEV_POP"]⟩,
    ⟨"aggregate.StddevSamp", ["this"], some 1, ["STDDEV_SAMP"]⟩,
    ⟨"aggregate.Sum", ["this"], some 1, ["SUM"]⟩,
    ⟨"aggregate.Variance", ["this"], some 1, ["VARIANCE", "VARIANCE_SAMP", "VAR_SAMP"]⟩,
    ⟨"aggregate.VariancePop", ["this"], some 1, ["VARIANCE_POP", "VAR_POP"]⟩]

/-- The functions of arrays, maps and records. -/
def arrayFunctions : List Signature :=
  [⟨"array.Array", [], none, ["ARRAY"]⟩,
    ⟨"array.ArrayAll", ["this", "expression"], some 2, ["ARRAY_ALL"]⟩,
    ⟨"array.ArrayAny", ["this", "expression"], some 2, ["ARRAY_ANY"]⟩,
    ⟨"array.ArrayAppend", ["this", "expression"], some 3, ["ARRAY_APPEND"]⟩,
    ⟨"array.ArrayCompact", ["this"], some 1, ["ARRAY_COMPACT"]⟩,
    ⟨"array.ArrayConcat", ["this"], none, ["ARRAY_CAT", "ARRAY_CONCAT"]⟩,
    ⟨"array.ArrayConstructCompact", [], none, ["ARRAY_CONSTRUCT_COMPACT"]⟩,
    ⟨"array.ArrayContains", ["this", "expression"], some 4, ["ARRAY_CONTAINS", "ARRAY_HAS"]⟩,
    ⟨"array.ArrayContainsAll", ["this", "expression"], some 2,
      ["ARRAY_CONTAINS_ALL", "ARRAY_HAS_ALL"]⟩,
    ⟨"array.ArrayDistinct", ["this"], some 2, ["ARRAY_DISTINCT"]⟩,
    ⟨"array.ArrayExcept", ["this", "expression"], some 3, ["ARRAY_EXCEPT"]⟩,
    ⟨"array.ArrayFilter", ["this", "expression"], some 2, ["ARRAY_FILTER", "FILTER"]⟩,
    ⟨"array.ArrayFirst", ["this"], some 2, ["ARRAY_FIRST"]⟩,
    ⟨"array.ArrayInsert", ["this", "position", "expression"], some 4, ["ARRAY_INSERT"]⟩,
    ⟨"array.ArrayIntersect", ["expressions"], none, ["ARRAY_INTERSECT", "ARRAY_INTERSECTION"]⟩,
    ⟨"array.ArrayLast", ["this"], some 1, ["ARRAY_LAST"]⟩,
    ⟨"array.ArrayMax", ["this"], some 1, ["ARRAY_MAX"]⟩,
    ⟨"array.ArrayMin", ["this"], some 1, ["ARRAY_MIN"]⟩,
    ⟨"array.ArrayOverlaps", ["this", "expression"], some 3, ["ARRAY_OVERLAPS"]⟩,
    ⟨"array.ArrayPosition", ["this", "expression"], some 3, ["ARRAY_POSITION"]⟩,
    ⟨"array.ArrayPrepend", ["this", "expression"], some 3, ["ARRAY_PREPEND"]⟩,
    ⟨"array.ArrayRemove", ["this", "expression"], some 3, ["ARRAY_REMOVE"]⟩,
    ⟨"array.ArrayRemoveAt", ["this", "expression"], some 2, ["ARRAY_REMOVE_AT"]⟩,
    ⟨"array.ArrayReverse", ["this"], some 1, ["ARRAY_REVERSE"]⟩,
    ⟨"array.ArraySize", ["this"], some 2, ["ARRAY_LENGTH", "ARRAY_SIZE"]⟩,
    ⟨"array.ArraySlice", ["this", "start"], some 5, ["ARRAY_SLICE"]⟩,
    ⟨"array.ArraySort", ["this"], some 2, ["ARRAY_SORT"]⟩,
    ⟨"array.ArraySum", ["this"], some 2, ["ARRAY_SUM"]⟩,
    ⟨"array.ArrayToString", ["this", "expression"], some 5, ["ARRAY_JOIN", "ARRAY_TO_STRING"]⟩,
    ⟨"array.ArraysZip", [], none, ["ARRAYS_ZIP"]⟩,
    ⟨"array.Explode", ["this"], none, ["EXPLODE"]⟩,
    ⟨"array.ExplodeOuter", ["this"], none, ["EXPLODE_OUTER"]⟩,
    ⟨"array.ExplodingGenerateSeries", ["this", "expression"], some 4,
      ["EXPLODING_GENERATE_SERIES"]⟩,
    ⟨"array.Flatten", ["this"], some 1, ["FLATTEN"]⟩,
    ⟨"array.GenerateDateArray", ["start", "end"], some 3, ["GENERATE_DATE_ARRAY"]⟩,
    ⟨"array.GenerateSeries", ["start", "end"], some 4, ["GENERATE_SERIES"]⟩,
    ⟨"array.GenerateTimestampArray", ["start", "end", "step"], some 3,
      ["GENERATE_TIMESTAMP_ARRAY"]⟩,
    ⟨"array.Inline", ["this"], some 1, ["INLINE"]⟩,
    ⟨"array.List", [], none, ["LIST"]⟩,
    ⟨"array.Map", [], some 2, ["MAP"]⟩,
    ⟨"array.MapCat", ["this", "expression"], some 2, ["MAP_CAT"]⟩,
    ⟨"array.MapContainsKey", ["this", "expression"], some 2, ["MAP_CONTAINS_KEY"]⟩,
    ⟨"array.MapDelete", ["this", "expressions"], none, ["MAP_DELETE"]⟩,
    ⟨"array.MapFromEntries", ["this"], some 1, ["MAP_FROM_ENTRIES"]⟩,
    ⟨"array.MapInsert", ["this", "key", "value"], some 4, ["MAP_INSERT"]⟩,
    ⟨"array.MapKeys", ["this"], some 1, ["MAP_KEYS"]⟩,
    ⟨"array.MapPick", ["this", "expressions"], none, ["MAP_PICK"]⟩,
    ⟨"array.MapSize", ["this"], some 1, ["MAP_SIZE"]⟩,
    ⟨"array.Posexplode", ["this"], none, ["POSEXPLODE"]⟩,
    ⟨"array.PosexplodeOuter", ["this"], none, ["POSEXPLODE_OUTER"]⟩,
    ⟨"array.Reduce", ["this", "initial", "merge"], some 4, ["REDUCE"]⟩,
    ⟨"array.Shuffle", ["this"], some 1, ["SHUFFLE"]⟩,
    ⟨"array.SortArray", ["this"], some 3, ["SORT_ARRAY"]⟩,
    ⟨"array.Stack", ["this", "expressions"], none, ["STACK"]⟩,
    ⟨"array.StarMap", ["this"], some 1, ["STAR_MAP"]⟩,
    ⟨"array.StringToArray", ["this"], some 3,
      ["SPLIT_BY_STRING", "STRING_TO_ARRAY", "STRTOK_TO_ARRAY"]⟩,
    ⟨"array.Struct", [], none, ["STRUCT"]⟩,
    ⟨"array.StructExtract", ["this", "expression"], some 2, ["STRUCT_EXTRACT"]⟩,
    ⟨"array.ToArray", ["this"], some 1, ["TO_ARRAY"]⟩,
    ⟨"array.ToMap", ["this"], some 1, ["TO_MAP"]⟩,
    ⟨"array.Transform", ["this", "expression"], some 2, ["TRANSFORM"]⟩,
    ⟨"array.Unnest", ["this"], none, ["UNNEST"]⟩]

/-- The functions of JSON values. -/
def jsonValueFunctions : List Signature :=
  [⟨"json.CheckJSON", ["this"], some 1, ["CHECK_JSON"]⟩,
    ⟨"json.FromJSON", ["this", "expression"], some 3, ["FROM_JSON"]⟩,
    ⟨"json.IsArray", ["this"], some 1, ["IS_ARRAY"]⟩,
    ⟨"json.JSONArrayAppend", ["this", "expressions"], none, ["JSON_ARRAY_APPEND"]⟩,
    ⟨"json.JSONArrayContains", ["this", "expression"], some 3, ["JSON_ARRAY_CONTAINS"]⟩,
    ⟨"json.JSONArrayInsert", ["this", "expressions"], none, ["JSON_ARRAY_INSERT"]⟩,
    ⟨"json.JSONBContains", ["this", "expression"], some 2, ["JSONB_CONTAINS"]⟩,
    ⟨"json.JSONBContainsAllTopKeys", ["this", "expression"], some 2,
      ["JSONB_CONTAINS_ALL_TOP_KEYS"]⟩,
    ⟨"json.JSONBContainsAnyTopKeys", ["this", "expression"], some 2,
      ["JSONB_CONTAINS_ANY_TOP_KEYS"]⟩,
    ⟨"json.JSONBDeleteAtPath", ["this", "expression"], some 2, ["JSONB_DELETE_AT_PATH"]⟩,
    ⟨"json.JSONBExtract", ["this", "expression"], some 2, ["JSONB_EXTRACT"]⟩,
    ⟨"json.JSONBExtractScalar", ["this", "expression"], some 3, ["JSONB_EXTRACT_SCALAR"]⟩,
    ⟨"json.JSONExtract", ["this"], none, ["JSON_EXTRACT_PATH"]⟩,
    ⟨"json.JSONExtract", ["this", "expression"], none, ["JSON_EXTRACT"]⟩,
    ⟨"json.JSONExtractArray", ["this"], some 2, ["JSON_EXTRACT_ARRAY"]⟩,
    ⟨"json.JSONExtractScalar", ["this"], none, ["JSON_EXTRACT_PATH_TEXT"]⟩,
    ⟨"json.JSONExtractScalar", ["this", "expression"], none, ["JSON_EXTRACT_SCALAR"]⟩,
    ⟨"json.JSONFormat", [], some 4, ["JSON_FORMAT"]⟩,
    ⟨"json.JSONKeys", ["this"], none, ["JSON_KEYS"]⟩,
    ⟨"json.JSONRemove", ["this", "expressions"], none, ["JSON_REMOVE"]⟩,
    ⟨"json.JSONSet", ["this", "expressions"], none, ["JSON_SET"]⟩,
    ⟨"json.JSONStripNulls", ["this"], some 4, ["JSON_STRIP_NULLS"]⟩,
    ⟨"json.JSONType", ["this"], some 2, ["JSON_TYPE"]⟩,
    ⟨"json.JSONValueArray", ["this"], some 2, ["JSON_VALUE_ARRAY"]⟩,
    ⟨"json.LaxBool", ["this"], some 1, ["LAX_BOOL"]⟩,
    ⟨"json.LaxFloat64", ["this"], some 1, ["LAX_FLOAT64"]⟩,
    ⟨"json.LaxInt64", ["this"], some 1, ["LAX_INT64"]⟩,
    ⟨"json.LaxString", ["this"], some 1, ["LAX_STRING"]⟩,
    ⟨"json.ObjectInsert", ["this"], some 4, ["OBJECT_INSERT"]⟩,
    ⟨"json.ParseJSON", ["this"], some 4, ["JSON_PARSE", "PARSE_JSON"]⟩]

/-- The functions of numbers. -/
def mathFunctions : List Signature :=
  [⟨"math.Abs", ["this"], some 1, ["ABS"]⟩,
    ⟨"math.Acos", ["this"], some 1, ["ACOS"]⟩,
    ⟨"math.Acosh", ["this"], some 1, ["ACOSH"]⟩,
    ⟨"math.Asin", ["this"], some 1, ["ASIN"]⟩,
    ⟨"math.Asinh", ["this"], some 1, ["ASINH"]⟩,
    ⟨"math.Atan", ["this"], some 2, ["ATAN"]⟩,
    ⟨"math.Atan2", ["this", "expression"], some 2, ["ATAN2"]⟩,
    ⟨"math.Atanh", ["this"], some 1, ["ATANH"]⟩,
    ⟨"math.BitwiseCount", ["this"], some 1, ["BITWISE_COUNT"]⟩,
    ⟨"math.Booland", ["this", "expression"], some 2, ["BOOLAND"]⟩,
    ⟨"math.Boolnot", ["this"], some 1, ["BOOLNOT"]⟩,
    ⟨"math.Boolor", ["this", "expression"], some 2, ["BOOLOR"]⟩,
    ⟨"math.Boolxor", ["this", "expression"], some 2, ["BOOLXOR"]⟩,
    ⟨"math.Cbrt", ["this"], some 1, ["CBRT"]⟩,
    ⟨"math.Ceil", ["this"], some 3, ["CEILING"]⟩,
    ⟨"math.Cos", ["this"], some 1, ["COS"]⟩,
    ⟨"math.Cosh", ["this"], some 1, ["COSH"]⟩,
    ⟨"math.CosineDistance", ["this", "expression"], some 2, ["COSINE_DISTANCE"]⟩,
    ⟨"math.Cot", ["this"], some 1, ["COT"]⟩,
    ⟨"math.Coth", ["this"], some 1, ["COTH"]⟩,
    ⟨"math.Csc", ["this"], some 1, ["CSC"]⟩,
    ⟨"math.Csch", ["this"], some 1, ["CSCH"]⟩,
    ⟨"math.Degrees", ["this"], some 1, ["DEGREES"]⟩,
    ⟨"math.DotProduct", ["this", "expression"], some 2, ["DOT_PRODUCT"]⟩,
    ⟨"math.EuclideanDistance", ["this", "expression"], some 2, ["EUCLIDEAN_DISTANCE"]⟩,
    ⟨"math.Exp", ["this"], some 1, ["EXP"]⟩,
    ⟨"math.Factorial", ["this"], some 1, ["FACTORIAL"]⟩,
    ⟨"math.Getbit", ["this", "expression"], some 3, ["GETBIT", "GET_BIT"]⟩,
    ⟨"math.IntDiv", [], some 6, ["DIV"]⟩,
    ⟨"math.IsInf", ["this"], some 1, ["ISINF", "IS_INF"]⟩,
    ⟨"math.IsNan", ["this"], some 1, ["ISNAN", "IS_NAN"]⟩,
    ⟨"math.Ln", ["this"], some 1, ["LN"]⟩,
    ⟨"math.Log", ["this"], some 2, ["LOG"]⟩,
    ⟨"math.Log10", [], some 2, ["LOG10"]⟩,
    ⟨"math.Log2", [], some 2, ["LOG2"]⟩,
    ⟨"math.ManhattanDistance", ["this", "expression"], some 2, ["MANHATTAN_DISTANCE"]⟩,
    ⟨"math.Mod", ["this", "expression"], none, ["MOD"]⟩,
    ⟨"math.Negative", ["this"], some 1, ["NEGATIVE"]⟩,
    ⟨"math.Normal", ["mean", "stddev", "gen"], some 3, ["NORMAL"]⟩,
    ⟨"math.Pi", [], some 0, ["PI"]⟩,
    ⟨"math.Pow", ["this", "expression"], some 2, ["POW", "POWER"]⟩,
    ⟨"math.Radians", ["this"], some 1, ["RADIANS"]⟩,
    ⟨"math.Rand", [], some 3, ["RAND", "RANDOM"]⟩,
    ⟨"math.Randn", [], some 1, ["RANDN"]⟩,
    ⟨"math.RangeBucket", ["this", "expression"], some 2, ["RANGE_BUCKET"]⟩,
    ⟨"math.Round", ["this"], some 4, ["ROUND"]⟩,
    ⟨"math.SafeAdd", ["this", "expression"], some 2, ["SAFE_ADD"]⟩,
    ⟨"math.SafeDivide", ["this", "expression"], some 2, ["SAFE_DIVIDE"]⟩,
    ⟨"math.SafeMultiply", ["this", "expression"], some 2, ["SAFE_MULTIPLY"]⟩,
    ⟨"math.SafeNegate", ["this"], some 1, ["SAFE_NEGATE"]⟩,
    ⟨"math.SafeSubtract", ["this", "expression"], some 2, ["SAFE_SUBTRACT"]⟩,
    ⟨"math.Sec", ["this"], some 1, ["SEC"]⟩,
    ⟨"math.Sech", ["this"], some 1, ["SECH"]⟩,
    ⟨"math.Sign", ["this"], some 1, ["SIGN", "SIGNUM"]⟩,
    ⟨"math.Sin", ["this"], some 1, ["SIN"]⟩,
    ⟨"math.Sinh", ["this"], some 1, ["SINH"]⟩,
    ⟨"math.Sqrt", ["this"], some 1, ["SQRT"]⟩,
    ⟨"math.Tan", ["this"], some 1, ["TAN"]⟩,
    ⟨"math.Tanh", ["this"], some 1, ["TANH"]⟩,
    ⟨"math.Trunc", ["this"], some 3, ["TRUNC", "TRUNCATE"]⟩,
    ⟨"math.Uniform", ["this", "expression"], some 4, ["UNIFORM"]⟩,
    ⟨"math.WidthBucket", ["this"], some 5, ["WIDTH_BUCKET"]⟩,
    ⟨"math.Zipf", ["s", "n", "gen"], some 3, ["ZIPF"]⟩]

/-- The functions of texts. -/
def textFunctions : List Signature :=
  [⟨"string.Ascii", ["this"], some 1, ["ASCII"]⟩,
    ⟨"string.Base64DecodeBinary", ["this"], some 2, ["BASE64_DECODE_BINARY"]⟩,
    ⟨"string.Base64DecodeString", ["this"], some 2, ["BASE64_DECODE_STRING"]⟩,
    ⟨"string.Base64Encode", ["this"], some 3, ["BASE64_ENCODE"]⟩,
    ⟨"string.BitLength", ["this"], some 1, ["BIT_LENGTH"]⟩,
    ⟨"string.ByteLength", ["this"], some 1, ["BYTE_LENGTH"]⟩,
    ⟨"string.Collate", ["this", "expression"], some 2, ["COLLATE"]⟩,
    ⟨"string.Concat", ["expressions"], none, ["CONCAT"]⟩,
    ⟨"string.ConcatWs", ["expressions"], none, ["CONCAT_WS"]⟩,
    ⟨"string.Contains", ["this", "expression"], some 3, ["CONTAINS"]⟩,
    ⟨"string.ContainsSubstring", ["this", "expression"], some 3, ["CONTAINS_SUBSTRING"]⟩,
    ⟨"string.Elt", ["this", "expressions"], none, ["ELT"]⟩,
    ⟨"string.EndsWith", ["this", "expression"], some 2, ["ENDSWITH", "ENDS_WITH"]⟩,
    ⟨"string.Format", ["this"], none, ["FORMAT"]⟩,
    ⟨"string.FromBase", ["this", "expression"], some 2, ["FROM_BASE"]⟩,
    ⟨"string.FromBase32", ["this"], some 1, ["FROM_BASE32"]⟩,
    ⟨"string.FromBase64", ["this"], some 1, ["FROM_BASE64"]⟩,
    ⟨"string.Hex", ["this"], some 2, ["HEX", "TO_HEX"]⟩,
    ⟨"string.HexDecodeString", ["this"], some 1, ["HEX_DECODE_BINARY", "HEX_DECODE_STRING"]⟩,
    ⟨"string.HexEncode", ["this"], some 2, ["HEX_ENCODE"]⟩,
    ⟨"string.JarowinklerSimilarity", ["this", "expression"], some 3, ["JAROWINKLER_SIMILARITY"]⟩,
    ⟨"string.Left", ["this", "expression"], some 3, ["LEFT"]⟩,
    ⟨"string.Length", ["this"], some 3, ["CHARACTER_LENGTH", "CHAR_LENGTH", "LEN", "LENGTH"]⟩,
    ⟨"string.Levenshtein", ["this"], some 6, ["LEVENSHTEIN"]⟩,
    ⟨"string.Levenshtein", ["this", "expression"], some 7, ["LEVENSHTEIN_LESS_EQUAL"]⟩,
    ⟨"string.Lower", ["this"], some 1, ["LCASE", "LOWER"]⟩,
    ⟨"string.LowerHex", ["this"], some 2, ["LOWER_HEX"]⟩,
    ⟨"string.MD5", ["this"], some 1, ["MD5"]⟩,
    ⟨"string.MD5Digest", ["this"], none, ["MD5_DIGEST"]⟩,
    ⟨"string.Pad", ["this", "fill_pattern"], some 4, ["LEFTPAD", "LPAD", "RIGHTPAD", "RPAD"]⟩,
    ⟨"string.Pad", ["this", "is_left", "fill_pattern", "expression"], some 4, ["PAD"]⟩,
    ⟨"string.Randstr", ["this"], some 2, ["RANDSTR"]⟩,
    ⟨"string.RegexpCount", ["this", "expression"], some 4, ["REGEXP_COUNT"]⟩,
    ⟨"string.RegexpExtract", ["this", "expression"], some 7, ["REGEXP_EXTRACT"]⟩,
    ⟨"string.RegexpExtractAll", ["this", "expression"], some 7, ["REGEXP_EXTRACT_ALL"]⟩,
    ⟨"string.RegexpFullMatch", ["this", "expression"], some 3, ["REGEXP_FULL_MATCH"]⟩,
    ⟨"string.RegexpILike", ["this", "expression"], some 3, ["REGEXP_I_LIKE"]⟩,
    ⟨"string.RegexpInstr", ["this", "expression"], some 7, ["REGEXP_INSTR"]⟩,
    ⟨"string.RegexpLike", ["this", "expression"], some 4, ["REGEXP_LIKE"]⟩,
    ⟨"string.RegexpReplace", ["this", "expression"], some 7, ["REGEXP_REPLACE"]⟩,
    ⟨"string.RegexpSplit", ["this", "expression"], some 3, ["REGEXP_SPLIT"]⟩,
    ⟨"string.Repeat", ["this", "times"], some 2, ["REPEAT"]⟩,
    ⟨"string.Replace", ["this", "expression"], some 3, ["REPLACE"]⟩,
    ⟨"string.Reverse", ["this"], some 1, ["REVERSE"]⟩,
    ⟨"string.Right", ["this", "expression"], some 3, ["RIGHT"]⟩,
    ⟨"string.SHA", ["this"], some 1, ["SHA", "SHA1"]⟩,
    ⟨"string.SHA2", ["this"], some 2, ["SHA2", "SHA256", "SHA384", "SHA512"]⟩,
    ⟨"string.Soundex", ["this"], some 1, ["SOUNDEX"]⟩,
    ⟨"string.Space", ["this"], some 1, ["SPACE"]⟩,
    ⟨"string.Split", ["this", "expression"], some 5, ["SPLIT"]⟩,
    ⟨"string.SplitPart", ["this"], some 5, ["SPLIT_PART"]⟩,
    ⟨"string.StartsWith", ["this", "expression"], some 2, ["STARTSWITH", "STARTS_WITH"]⟩,
    ⟨"string.StrPosition", ["this", "substr"], some 5,
      ["CHARINDEX", "INSTR", "LOCATE", "STRPOS", "STR_POSITION"]⟩,
    ⟨"string.Strtok", ["this"], some 3, ["STRTOK"]⟩,
    ⟨"string.Stuff", ["this", "start", "length", "expression"], some 4, ["INSERT", "STUFF"]⟩,
    ⟨"string.Substring", ["this"], some 4, ["SUBSTR"]⟩,
    ⟨"string.SubstringIndex", ["this", "delimiter", "count"], some 3, ["SUBSTRING_INDEX"]⟩,
    ⟨"string.TimeToStr", ["this", "format"], some 4, ["TO_CHAR"]⟩,
    ⟨"string.ToBase32", ["this"], some 1, ["TO_BASE32"]⟩,
    ⟨"string.ToBase64", ["this"], some 1, ["TO_BASE64"]⟩,
    ⟨"string.ToNumber", ["this"], some 7, ["TO_NUMBER"]⟩,
    ⟨"string.Translate", ["this", "from_", "to"], some 3, ["TRANSLATE"]⟩,
    ⟨"string.Trim", ["this"], some 4, ["BTRIM", "LTRIM", "RTRIM"]⟩,
    ⟨"string.TryBase64DecodeBinary", ["this"], some 2, ["TRY_BASE64_DECODE_BINARY"]⟩,
    ⟨"string.TryBase64DecodeString", ["this"], some 2, ["TRY_BASE64_DECODE_STRING"]⟩,
    ⟨"string.TryHexDecodeBinary", ["this"], some 1, ["TRY_HEX_DECODE_BINARY"]⟩,
    ⟨"string.TryHexDecodeString", ["this"], some 1, ["TRY_HEX_DECODE_STRING"]⟩,
    ⟨"string.Unhex", ["this"], some 2, ["UNHEX"]⟩,
    ⟨"string.Unicode", ["this"], some 2, ["UNICODE"]⟩,
    ⟨"string.Upper", ["this"], some 1, ["UCASE", "UPPER"]⟩]

/-- The functions of moments. -/
def momentFunctions : List Signature :=
  [⟨"temporal.AddMonths", ["this", "expression"], some 3, ["ADD_MONTHS"]⟩,
    ⟨"temporal.ConvertTimezone", ["target_tz", "timestamp"], some 4, ["CONVERT_TIMEZONE"]⟩,
    ⟨"temporal.CurrentDate", [], some 1, ["CURRENT_DATE"]⟩,
    ⟨"temporal.CurrentDatetime", [], some 1, ["CURRENT_DATETIME"]⟩,
    ⟨"temporal.CurrentSecondaryRoles", [], some 0, ["CURRENT_SECONDARY_ROLES"]⟩,
    ⟨"temporal.CurrentTime", [], some 1, ["CURRENT_TIME"]⟩,
    ⟨"temporal.CurrentTimestamp", [], some 2, ["CURRENT_TIMESTAMP", "NOW"]⟩,
    ⟨"temporal.CurrentTimestampLTZ", [], some 0, ["CURRENT_TIMESTAMP_L_T_Z"]⟩,
    ⟨"temporal.CurrentTimezone", [], some 0, ["CURRENT_TIMEZONE"]⟩,
    ⟨"temporal.Date", [], none, ["DATE"]⟩,
    ⟨"temporal.DateAdd", ["this", "expression"], some 3, ["DATE_ADD"]⟩,
    ⟨"temporal.DateBin", ["this", "expression"], some 5, ["DATE_BIN"]⟩,
    ⟨"temporal.DateDiff", ["this", "expression"], some 6, ["DATEDIFF", "DATE_DIFF"]⟩,
    ⟨"temporal.DateFromParts", ["year"], some 4, ["DATEFROMPARTS", "DATE_FROM_PARTS"]⟩,
    ⟨"temporal.DateFromUnixDate", ["this"], some 1, ["DATE_FROM_UNIX_DATE"]⟩,
    ⟨"temporal.DateStrToDate", ["this"], some 1, ["DATE_STR_TO_DATE"]⟩,
    ⟨"temporal.DateSub", ["this", "expression"], some 3, ["DATE_SUB"]⟩,
    ⟨"temporal.DateToDateStr", ["this"], some 1, ["DATE_TO_DATE_STR"]⟩,
    ⟨"temporal.DateToDi", ["this"], some 1, ["DATE_TO_DI"]⟩,
    ⟨"temporal.Datetime", ["this"], some 2, ["DATETIME"]⟩,
    ⟨"temporal.DatetimeAdd", ["this", "expression"], some 3, ["DATETIME_ADD"]⟩,
    ⟨"temporal.DatetimeDiff", ["this", "expression"], some 3, ["DATETIME_DIFF"]⟩,
    ⟨"temporal.DatetimeSub", ["this", "expression"], some 3, ["DATETIME_SUB"]⟩,
    ⟨"temporal.DatetimeTrunc", ["this", "unit"], some 3, ["DATETIME_TRUNC"]⟩,
    ⟨"temporal.Day", ["this"], some 1, ["DAY"]⟩,
    ⟨"temporal.DayOfMonth", ["this"], some 1, ["DAYOFMONTH", "DAY_OF_MONTH"]⟩,
    ⟨"temporal.DayOfWeek", ["this"], some 1, ["DAYOFWEEK", "DAY_OF_WEEK"]⟩,
    ⟨"temporal.DayOfWeekIso", ["this"], some 1, ["DAYOFWEEK_ISO"]⟩,
    ⟨"temporal.DayOfYear", ["this"], some 1, ["DAYOFYEAR", "DAY_OF_YEAR"]⟩,
    ⟨"temporal.Dayname", ["this"], some 2, ["DAYNAME"]⟩,
    ⟨"temporal.DiToDate", ["this"], some 1, ["DI_TO_DATE"]⟩,
    ⟨"temporal.FeaturesAtTime", ["this"], some 4, ["FEATURES_AT_TIME"]⟩,
    ⟨"temporal.FromIso8601Timestamp", ["this"], some 1, ["FROM_ISO8601_TIMESTAMP"]⟩,
    ⟨"temporal.Hour", ["this"], some 1, ["HOUR"]⟩,
    ⟨"temporal.JustifyDays", ["this"], some 1, ["JUSTIFY_DAYS"]⟩,
    ⟨"temporal.JustifyHours", ["this"], some 1, ["JUSTIFY_HOURS"]⟩,
    ⟨"temporal.JustifyInterval", ["this"], some 1, ["JUSTIFY_INTERVAL"]⟩,
    ⟨"temporal.LastDay", ["this"], some 2, ["LAST_DAY", "LAST_DAY_OF_MONTH"]⟩,
    ⟨"temporal.Localtime", [], some 1, ["LOCALTIME"]⟩,
    ⟨"temporal.Localtimestamp", [], some 1, ["LOCALTIMESTAMP"]⟩,
    ⟨"temporal.MakeInterval", [], some 7, ["MAKE_INTERVAL"]⟩,
    ⟨"temporal.Minute", ["this"], some 1, ["MINUTE"]⟩,
    ⟨"temporal.Month", ["this"], some 1, ["MONTH"]⟩,
    ⟨"temporal.Monthname", ["this"], some 2, ["MONTHNAME"]⟩,
    ⟨"temporal.MonthsBetween", ["this", "expression"], some 3, ["MONTHS_BETWEEN"]⟩,
    ⟨"temporal.NextDay", ["this", "expression"], some 2, ["NEXT_DAY"]⟩,
    ⟨"temporal.ParseDatetime", ["this"], some 3, ["PARSE_DATETIME"]⟩,
    ⟨"temporal.ParseTime", ["this", "expression"], some 2, ["PARSE_TIME"]⟩,
    ⟨"temporal.PreviousDay", ["this", "expression"], some 2, ["PREVIOUS_DAY"]⟩,
    ⟨"temporal.Quarter", ["this"], some 1, ["QUARTER"]⟩,
    ⟨"temporal.Second", ["this"], some 1, ["SECOND"]⟩,
    ⟨"temporal.StrToDate", ["this"], some 4, ["STR_TO_DATE", "TO_DATE"]⟩,
    ⟨"temporal.StrToTime", ["this"], some 6, ["TO_TIMESTAMP"]⟩,
    ⟨"temporal.StrToTime", ["this", "format"], some 6, ["STR_TO_TIME"]⟩,
    ⟨"temporal.StrToUnix", [], some 2, ["STR_TO_UNIX"]⟩,
    ⟨"temporal.Time", [], some 2, ["TIME"]⟩,
    ⟨"temporal.TimeAdd", ["this", "expression"], some 3, ["TIME_ADD"]⟩,
    ⟨"temporal.TimeDiff", ["this", "expression"], some 3, ["TIME_DIFF"]⟩,
    ⟨"temporal.TimeFromParts", ["hour", "min", "sec"], some 7,
      ["MAKE_TIME", "TIMEFROMPARTS", "TIME_FROM_PARTS"]⟩,
    ⟨"temporal.TimeSlice", ["this", "expression", "unit"], some 4, ["TIME_SLICE"]⟩,
    ⟨"temporal.TimeStrToDate", ["this"], some 1, ["TIME_STR_TO_DATE"]⟩,
    ⟨"temporal.TimeStrToTime", ["this"], some 2, ["TIME_STR_TO_TIME"]⟩,
    ⟨"temporal.TimeStrToUnix", ["this"], some 1, ["TIME_STR_TO_UNIX"]⟩,
    ⟨"temporal.TimeSub", ["this", "expression"], some 3, ["TIME_SUB"]⟩,
    ⟨"temporal.TimeToStr", ["this", "format"], some 4, ["TIME_TO_STR"]⟩,
    ⟨"temporal.TimeToTimeStr", ["this"], some 1, ["TIME_TO_TIME_STR"]⟩,
    ⟨"temporal.TimeToUnix", ["this"], some 1, ["TIME_TO_UNIX"]⟩,
    ⟨"temporal.TimeTrunc", ["this", "unit"], some 3, ["TIME_TRUNC"]⟩,
    ⟨"temporal.Timestamp", [], some 4, ["TIMESTAMP"]⟩,
    ⟨"temporal.TimestampAdd", ["this", "expression"], some 3, ["TIMESTAMP_ADD"]⟩,
    ⟨"temporal.TimestampDiff", ["this", "expression"], some 3,
      ["TIMESTAMPDIFF", "TIMESTAMP_DIFF"]⟩,
    ⟨"temporal.TimestampFromParts", [], some 11,
      ["MAKE_TIMESTAMP", "TIMESTAMPFROMPARTS", "TIMESTAMP_FROM_PARTS"]⟩,
    ⟨"temporal.TimestampLtzFromParts", [], some 7,
      ["TIMESTAMPLTZFROMPARTS", "TIMESTAMP_LTZ_FROM_PARTS"]⟩,
    ⟨"temporal.TimestampSub", ["this", "expression"], some 3, ["TIMESTAMP_SUB"]⟩,
    ⟨"temporal.TimestampTrunc", ["this", "unit"], some 4, ["DATE_TRUNC", "TIMESTAMP_TRUNC"]⟩,
    ⟨"temporal.TimestampTzFromParts", [], some 8,
      ["TIMESTAMPTZFROMPARTS", "TIMESTAMP_TZ_FROM_PARTS"]⟩,
    ⟨"temporal.ToDays", ["this"], some 1, ["TO_DAYS"]⟩,
    ⟨"temporal.TsOrDiToDi", ["this"], some 1, ["TS_OR_DI_TO_DI"]⟩,
    ⟨"temporal.TsOrDsAdd", ["this", "expression"], some 4, ["TS_OR_DS_ADD"]⟩,
    ⟨"temporal.TsOrDsDiff", ["this", "expression"], some 3, ["TS_OR_DS_DIFF"]⟩,
    ⟨"temporal.TsOrDsToDate", ["this"], some 3, ["TS_OR_DS_TO_DATE"]⟩,
    ⟨"temporal.TsOrDsToDateStr", [], some 3, ["TS_OR_DS_TO_DATE_STR"]⟩,
    ⟨"temporal.TsOrDsToDatetime", ["this"], some 1, ["TS_OR_DS_TO_DATETIME"]⟩,
    ⟨"temporal.TsOrDsToTime", ["this"], some 3, ["TS_OR_DS_TO_TIME"]⟩,
    ⟨"temporal.TsOrDsToTimestamp", ["this"], some 1, ["TS_OR_DS_TO_TIMESTAMP"]⟩,
    ⟨"temporal.UnixDate", ["this"], some 1, ["UNIX_DATE"]⟩,
    ⟨"temporal.UnixMicros", ["this"], some 1, ["UNIX_MICROS"]⟩,
    ⟨"temporal.UnixMillis", ["this"], some 1, ["UNIX_MILLIS"]⟩,
    ⟨"temporal.UnixSeconds", ["this"], some 1, ["UNIX_SECONDS"]⟩,
    ⟨"temporal.UnixToStr", ["this", "format"], some 2, ["UNIX_TO_STR"]⟩,
    ⟨"temporal.UnixToTime", ["this"], some 7, ["UNIX_TO_TIME"]⟩,
    ⟨"temporal.UnixToTimeStr", ["this"], some 1, ["UNIX_TO_TIME_STR"]⟩,
    ⟨"temporal.UtcDate", [], some 0, ["UTC_DATE"]⟩,
    ⟨"temporal.UtcTime", [], some 1, ["UTC_TIME"]⟩,
    ⟨"temporal.UtcTimestamp", [], some 1, ["UTC_TIMESTAMP"]⟩,
    ⟨"temporal.Week", ["this"], some 2, ["WEEK"]⟩,
    ⟨"temporal.WeekOfYear", ["this"], some 1, ["WEEKOFYEAR", "WEEK_OF_YEAR"]⟩,
    ⟨"temporal.Year", ["this"], some 1, ["YEAR"]⟩,
    ⟨"temporal.YearOfWeek", ["this"], some 1, ["YEAROFWEEK", "YEAR_OF_WEEK"]⟩,
    ⟨"temporal.YearOfWeekIso", ["this"], some 1, ["YEAROFWEEKISO", "YEAR_OF_WEEK_ISO"]⟩]

/-- The functions of other things. -/
def otherFunctions : List Signature :=
  [⟨"functions.AiClassify", ["this", "expression"], some 3, ["AI_CLASSIFY"]⟩,
    ⟨"aggregate.BitmapBitPosition", ["this"], some 1, ["BITMAP_BIT_POSITION"]⟩,
    ⟨"aggregate.BitmapBucketNumber", ["this"], some 1, ["BITMAP_BUCKET_NUMBER"]⟩,
    ⟨"aggregate.BitmapCount", ["this"], some 1, ["BITMAP_COUNT"]⟩,
    ⟨"aggregate.RowNumber", [], some 1, ["ROW_NUMBER"]⟩,
    ⟨"aggregate.VarMap", [], none, ["VAR_MAP"]⟩,
    ⟨"functions.AnonymousAggFunc", ["this"], none, ["ANONYMOUS_AGG_FUNC"]⟩,
    ⟨"functions.Case", ["this", "true"], some 3, ["CASE"]⟩,
    ⟨"functions.CastToStrType", ["this", "expression"], some 2, ["CAST_TO_STR_TYPE"]⟩,
    ⟨"functions.CheckXML", ["this"], some 2, ["CHECK_XML"]⟩,
    ⟨"functions.CityHash64", ["expressions"], none, ["CITY_HASH64"]⟩,
    ⟨"functions.Coalesce", ["this"], none, ["COALESCE", "IFNULL", "NVL"]⟩,
    ⟨"functions.CodePointsToBytes", ["this"], some 1, ["CODE_POINTS_TO_BYTES"]⟩,
    ⟨"functions.CodePointsToString", ["this"], some 1, ["CODE_POINTS_TO_STRING"]⟩,
    ⟨"functions.Collation", ["this"], some 1, ["COLLATION"]⟩,
    ⟨"functions.Columns", ["this"], some 2, ["COLUMNS"]⟩,
    ⟨"functions.CombinedAggFunc", ["this"], none, ["COMBINED_AGG_FUNC"]⟩,
    ⟨"functions.CombinedParameterizedAgg", ["this", "expression", "args"], some 3,
      ["COMBINED_PARAMETERIZED_AGG"]⟩,
    ⟨"functions.Compress", ["this"], some 2, ["COMPRESS"]⟩,
    ⟨"functions.ConvertToCharset", ["this", "expression"], some 3, ["CONVERT_TO_CHARSET"]⟩,
    ⟨"functions.CurrentAccount", [], some 0, ["CURRENT_ACCOUNT"]⟩,
    ⟨"functions.CurrentAccountName", [], some 0, ["CURRENT_ACCOUNT_NAME"]⟩,
    ⟨"functions.CurrentAvailableRoles", [], some 0, ["CURRENT_AVAILABLE_ROLES"]⟩,
    ⟨"functions.CurrentCatalog", [], some 0, ["CURRENT_CATALOG"]⟩,
    ⟨"functions.CurrentClient", [], some 0, ["CURRENT_CLIENT"]⟩,
    ⟨"functions.CurrentDatabase", [], some 0, ["CURRENT_DATABASE"]⟩,
    ⟨"functions.CurrentIpAddress", [], some 0, ["CURRENT_IP_ADDRESS"]⟩,
    ⟨"functions.CurrentOrganizationName", [], some 0, ["CURRENT_ORGANIZATION_NAME"]⟩,
    ⟨"functions.CurrentOrganizationUser", [], some 0, ["CURRENT_ORGANIZATION_USER"]⟩,
    ⟨"functions.CurrentRegion", [], some 0, ["CURRENT_REGION"]⟩,
    ⟨"functions.CurrentRole", [], some 0, ["CURRENT_ROLE"]⟩,
    ⟨"functions.CurrentRoleType", [], some 0, ["CURRENT_ROLE_TYPE"]⟩,
    ⟨"functions.CurrentSchema", [], some 1, ["CURRENT_SCHEMA"]⟩,
    ⟨"functions.CurrentSchemas", [], some 1, ["CURRENT_SCHEMAS"]⟩,
    ⟨"functions.CurrentSession", [], some 0, ["CURRENT_SESSION"]⟩,
    ⟨"functions.CurrentStatement", [], some 0, ["CURRENT_STATEMENT"]⟩,
    ⟨"functions.CurrentTransaction", [], some 0, ["CURRENT_TRANSACTION"]⟩,
    ⟨"functions.CurrentUser", [], some 1, ["CURRENT_USER"]⟩,
    ⟨"functions.CurrentVersion", [], some 0, ["CURRENT_VERSION"]⟩,
    ⟨"functions.CurrentWarehouse", [], some 0, ["CURRENT_WAREHOUSE"]⟩,
    ⟨"functions.DayOfWeekIso", ["this"], some 1, ["ISODOW"]⟩,
    ⟨"functions.DecodeCase", ["expressions"], none, ["DECODE_CASE"]⟩,
    ⟨"functions.DecompressBinary", ["this", "expression"], some 2, ["DECOMPRESS_BINARY"]⟩,
    ⟨"functions.DecompressString", ["this", "expression"], some 2, ["DECOMPRESS_STRING"]⟩,
    ⟨"functions.Decrypt", ["this", "passphrase"], some 5, ["DECRYPT"]⟩,
    ⟨"functions.DecryptRaw", ["this", "passphrase", "iv"], some 7, ["DECRYPT_RAW"]⟩,
    ⟨"functions.Encode", ["this", "charset"], some 2, ["ENCODE"]⟩,
    ⟨"functions.Encrypt", ["this", "passphrase"], some 4, ["ENCRYPT"]⟩,
    ⟨"functions.EncryptRaw", ["this", "passphrase", "iv"], some 5, ["ENCRYPT_RAW"]⟩,
    ⟨"functions.EqualNull", ["this", "expression"], some 2, ["EQUAL_NULL"]⟩,
    ⟨"functions.Exists", ["this"], some 2, ["EXISTS"]⟩,
    ⟨"functions.FarmFingerprint", ["expressions"], none,
      ["FARMFINGERPRINT64", "FARM_FINGERPRINT"]⟩,
    ⟨"functions.Float64", ["this"], some 2, ["FLOAT64"]⟩,
    ⟨"functions.GenerateEmbedding", ["this", "expression"], some 4, ["GENERATE_EMBEDDING"]⟩,
    ⟨"functions.Generator", [], some 2, ["GENERATOR"]⟩,
    ⟨"functions.GetExtract", ["this", "expression"], some 2, ["GET_EXTRACT"]⟩,
    ⟨"functions.GetIgnoreCase", ["this", "expression"], some 2, ["GET_IGNORE_CASE"]⟩,
    ⟨"functions.Glob", ["this", "expression"], none, ["GLOB"]⟩,
    ⟨"functions.Greatest", ["this"], none, ["GREATEST"]⟩,
    ⟨"functions.Host", ["this"], some 1, ["HOST"]⟩,
    ⟨"functions.If", ["this", "true"], some 3, ["IIF"]⟩,
    ⟨"functions.Int64", ["this"], some 1, ["INT64"]⟩,
    ⟨"functions.IsAscii", ["this"], some 1, ["IS_ASCII"]⟩,
    ⟨"functions.IsNullValue", ["this"], some 1, ["IS_NULL_VALUE"]⟩,
    ⟨"functions.Least", ["this"], none, ["LEAST"]⟩,
    ⟨"functions.Like", ["this", "expression"], none, ["LIKE"]⟩,
    ⟨"functions.MD5NumberLower64", ["this"], some 1, ["M_D5_NUMBER_LOWER64"]⟩,
    ⟨"functions.MD5NumberUpper64", ["this"], some 1, ["M_D5_NUMBER_UPPER64"]⟩,
    ⟨"functions.MatchAgainst", ["this", "expressions"], some 3, ["MATCH_AGAINST"]⟩,
    ⟨"functions.NetFunc", ["this"], some 1, ["NET_FUNC"]⟩,
    ⟨"functions.NextValueFor", ["this"], some 2, ["NEXT_VALUE_FOR"]⟩,
    ⟨"functions.Nullif", ["this", "expression"], some 2, ["NULLIF"]⟩,
    ⟨"functions.NumberToStr", ["this", "expression"], some 3, ["NUMBER_TO_STR"]⟩,
    ⟨"functions.Nvl2", ["this", "true"], some 3, ["NVL2"]⟩,
    ⟨"functions.ObjectId", ["this"], some 2, ["OBJECT_ID"]⟩,
    ⟨"functions.ParameterizedAgg", ["this", "expression", "args"], some 3, ["PARAMETERIZED_AGG"]⟩,
    ⟨"functions.ParseBignumeric", ["this"], some 1, ["PARSE_BIGNUMERIC"]⟩,
    ⟨"functions.ParseIp", ["this", "expression"], some 3, ["PARSE_IP"]⟩,
    ⟨"functions.ParseNumeric", ["this"], some 1, ["PARSE_NUMERIC"]⟩,
    ⟨"functions.ParseUrl", ["this"], some 4, ["PARSE_URL"]⟩,
    ⟨"functions.Predict", ["this", "expression"], some 3, ["PREDICT"]⟩,
    ⟨"functions.RangeN", ["this", "expression"], some 3, ["RANGE_N"]⟩,
    ⟨"functions.ReadCsv", ["this"], none, ["READ_CSV"]⟩,
    ⟨"functions.ReadParquet", ["this"], none, ["READ_PARQUET"]⟩,
    ⟨"functions.RegDomain", ["this"], some 1, ["REG_DOMAIN"]⟩,
    ⟨"functions.RtrimmedLength", ["this"], some 1, ["RTRIMMED_LENGTH"]⟩,
    ⟨"functions.SafeConvertBytesToString", ["this"], some 1, ["SAFE_CONVERT_BYTES_TO_STRING"]⟩,
    ⟨"functions.ScopeResolution", ["expressions"], none, ["SCOPE_RESOLUTION"]⟩,
    ⟨"functions.Search", ["this", "expression"], some 7, ["SEARCH"]⟩,
    ⟨"functions.SearchIp", ["this", "expression"], some 2, ["SEARCH_IP"]⟩,
    ⟨"functions.Secret", ["this", "expression"], some 2, ["SECRET"]⟩,
    ⟨"functions.Seq1", [], some 1, ["SEQ1"]⟩,
    ⟨"functions.Seq2", [], some 1, ["SEQ2"]⟩,
    ⟨"functions.Seq4", [], some 1, ["SEQ4"]⟩,
    ⟨"functions.Seq8", [], some 1, ["SEQ8"]⟩,
    ⟨"functions.SessionUser", [], some 0, ["SESSION_USER"]⟩,
    ⟨"functions.SoundexP123", ["this"], some 1, ["SOUNDEX_P123"]⟩,
    ⟨"functions.SplitToTable", ["this", "expression"], some 2, ["SPLIT_TO_TABLE"]⟩,
    ⟨"functions.StDistance", ["this", "expression"], some 3, ["ST_DISTANCE"]⟩,
    ⟨"functions.StMakepoint", ["this", "expression"], some 3, ["ST_MAKEPOINT"]⟩,
    ⟨"functions.StPoint", ["this", "expression"], some 3, ["ST_POINT"]⟩,
    ⟨"functions.StandardHash", ["this"], some 2, ["STANDARD_HASH"]⟩,
    ⟨"functions.StrToMap", ["this"], some 4, ["STR_TO_MAP"]⟩,
    ⟨"functions.String", ["this"], some 2, ["STRING"]⟩,
    ⟨"functions.ToBinary", ["this"], some 3, ["TO_BINARY"]⟩,
    ⟨"functions.ToBoolean", ["this"], some 2, ["TO_BOOLEAN"]⟩,
    ⟨"functions.ToCodePoints", ["this"], some 1, ["TO_CODE_POINTS"]⟩,
    ⟨"functions.ToDecfloat", ["this"], some 2, ["TO_DECFLOAT"]⟩,
    ⟨"functions.ToDouble", ["this"], some 3, ["TO_DOUBLE"]⟩,
    ⟨"functions.ToFile", ["this"], some 3, ["TO_FILE"]⟩,
    ⟨"functions.ToVariant", ["this"], some 1, ["TO_VARIANT"]⟩,
    ⟨"functions.TranslateCharacters", ["this", "expression"], some 3, ["TRANSLATE_CHARACTERS"]⟩,
    ⟨"functions.Try", ["this"], some 1, ["TRY"]⟩,
    ⟨"functions.TryToDecfloat", ["this"], some 2, ["TRY_TO_DECFLOAT"]⟩,
    ⟨"functions.Typeof", ["this"], some 1, ["TYPEOF"]⟩,
    ⟨"functions.Uuid", [], some 3, ["GENERATE_UUID", "GEN_RANDOM_UUID", "UUID", "UUID_STRING"]⟩,
    ⟨"functions.VectorSearch", ["this", "column_to_search", "query_table"], some 7,
      ["VECTOR_SEARCH"]⟩,
    ⟨"functions.Version", [], some 0, ["VERSION"]⟩,
    ⟨"functions.XMLGet", ["this", "expression"], some 3, ["XMLGET"]⟩,
    ⟨"functions.Xor", [], none, ["XOR"]⟩]

/-- All functions that the language defines. -/
def definedFunctions : List Signature :=
  aggregateFunctions ++ arrayFunctions ++ jsonValueFunctions ++ mathFunctions ++ textFunctions ++
    momentFunctions ++ otherFunctions

/-- Whether a function is one of many rows. -/
def isAggregate (function : String) : Bool :=
  aggregateFunctions.any fun signature => signature.names.contains function

/-- What is known of the function of a name. -/
def signature? (function : String) : Option Signature :=
  definedFunctions.find? fun signature => signature.names.contains function

/-- The functions that mark a text as JSON. -/
def jsonFunctions : List String := ["JSON_PARSE", "PARSE_JSON"]

end DartModels.Sql
