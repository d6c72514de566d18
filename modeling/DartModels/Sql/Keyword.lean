import DartModels.Sql.Token

namespace DartModels.Sql

/-- The keywords that name nothing. -/
def reservedWords : List String :=
  ["ALTER", "AND", "AS", "BETWEEN", "CHARACTER SET", "CLUSTER BY", "CONNECT BY", "CREATE", "CROSS",
    "DISTINCT", "DISTRIBUTE BY", "DROP", "ELSE", "EXCEPT", "FETCH", "FOR", "FOR TIMESTAMP",
    "FOR VERSION", "FROM", "GLOB", "GRANT", "GROUP BY", "GROUPING SETS", "HAVING", "ILIKE", "INNER",
    "INOUT", "INSERT", "INTERSECT", "INTO", "JOIN", "LATERAL", "LIKE", "NOT", "NOTNULL", "ON",
    "ONLY", "OR", "ORDER BY", "OUTER", "PARTITION BY", "PARTITIONED BY", "PARTITIONED_BY",
    "PRIMARY KEY", "QUALIFY", "REGEXP", "RETURNING", "REVOKE", "RLIKE", "ROLLBACK", "SELECT",
    "SIMILAR TO", "SORT BY", "START WITH", "STRAIGHT_JOIN", "TABLESAMPLE", "THEN", "UNCACHE",
    "UNION", "USING", "VALUES", "VARIADIC", "WHEN", "WHERE", "WITH", "XOR"]

/-- The keywords that name types. -/
def typeWords : List String :=
  ["ARRAY", "BIGDECIMAL", "BIGINT", "BIGNUM", "BIGNUMERIC", "BIGSERIAL", "BINARY", "BIT", "BLOB",
    "BOOL", "BOOLEAN", "BPCHAR", "BYTE", "BYTEA", "CHAR", "CHAR VARYING", "CHARACTER",
    "CHARACTER VARYING", "CLOB", "CSTRING", "DATE", "DATEMULTIRANGE", "DATERANGE", "DATETIME",
    "DEC", "DECFLOAT", "DECIMAL", "DECIMAL128", "DECIMAL256", "DECIMAL32", "DECIMAL64", "DOUBLE",
    "DOUBLE PRECISION", "ENUM", "FIXED", "FLOAT", "FLOAT4", "FLOAT8", "GEOGRAPHY", "GEOMETRY",
    "HSTORE", "HUGEINT", "INET", "INT", "INT1", "INT128", "INT16", "INT2", "INT256", "INT32",
    "INT4", "INT4MULTIRANGE", "INT4RANGE", "INT64", "INT8", "INT8MULTIRANGE", "INT8RANGE",
    "INTEGER", "INTERVAL", "JSON", "JSONB", "LIST", "LONG", "LONGBLOB", "LONGTEXT", "LONGVARCHAR",
    "MAP", "MEDIUMBLOB", "MEDIUMINT", "MEDIUMTEXT", "MONEY", "NAME", "NCHAR", "NULL", "NULLABLE",
    "NUMBER", "NUMERIC", "NUMMULTIRANGE", "NUMRANGE", "NVARCHAR", "NVARCHAR2", "OBJECT", "OID",
    "POINT", "RANGE", "REAL", "REF", "REGCLASS", "REGCOLLATION", "REGCONFIG", "REGDICTIONARY",
    "REGNAMESPACE", "REGOPER", "REGOPERATOR", "REGPROC", "REGPROCEDURE", "REGROLE", "REGTYPE",
    "SERIAL", "SHORT", "SMALLINT", "SMALLSERIAL", "STR", "STRING", "STRUCT", "TEXT", "TIME",
    "TIMESTAMP", "TIMESTAMPLTZ", "TIMESTAMPNTZ", "TIMESTAMPTZ", "TIMESTAMP_LTZ", "TIMESTAMP_NTZ",
    "TIMETZ", "TIME_NS", "TINYBLOB", "TINYINT", "TINYTEXT", "TSMULTIRANGE", "TSRANGE",
    "TSTZMULTIRANGE", "TSTZRANGE", "UHUGEINT", "UINT", "UINT128", "UINT256", "UNION", "UNKNOWN",
    "USER-DEFINED", "UUID", "VARBINARY", "VARCHAR", "VARCHAR2", "VARIANT", "VECTOR", "XML"]

/-- The other keywords. Like any word that is no keyword they may also be names. -/
def namingWords : List String :=
  ["ALL", "ANALYZE", "ANTI", "ANY", "APPLY", "ASC", "ASOF", "AUTOINCREMENT", "AUTO_INCREMENT",
    "BEGIN", "CACHE", "CALL", "CASE", "COLLATE", "COLUMN", "COMMENT", "COMMIT", "CONSTRAINT",
    "CONSTRAINT TRIGGER", "COPY", "CUBE", "CURRENT_CATALOG", "CURRENT_DATE", "CURRENT_SCHEMA",
    "CURRENT_TIME", "CURRENT_TIMESTAMP", "CURRENT_USER", "DATABASE", "DECLARE", "DEFAULT", "DELETE",
    "DESC", "DESCRIBE", "DO", "END", "ESCAPE", "EXEC", "EXECUTE", "EXISTS", "EXPLAIN", "FALSE",
    "FILE", "FILTER", "FIRST", "FOREIGN KEY", "FORMAT", "FULL", "FUNCTION", "IN", "INDEX", "IS",
    "ISNULL", "KEEP", "KILL", "LEFT", "LIMIT", "LOAD", "LOCALTIME", "LOCALTIMESTAMP", "LOCK",
    "MERGE", "NAMESPACE", "NATURAL", "NEXT", "OFFSET", "OPERATOR", "OPTIMIZE", "ORDINALITY", "OUT",
    "OVER", "OVERLAPS", "OVERWRITE", "PARTITION", "PERCENT", "PIVOT", "PRAGMA", "PREPARE",
    "PROCEDURE", "RECURSIVE", "REFERENCES", "REFRESH", "REINDEX", "RENAME", "REPLACE", "RESET",
    "RIGHT", "ROLLUP", "ROW", "ROWS", "SCHEMA", "SEMI", "SEQUENCE", "SESSION", "SESSION_USER",
    "SET", "SETTINGS", "SHOW", "SOME", "TABLE", "TEMP", "TEMPORARY", "TRIGGER", "TRUE", "TRUNCATE",
    "TYPE", "UNIQUE", "UNNEST", "UNPIVOT", "UPDATE", "USE", "VACUUM", "VIEW", "VOLATILE", "WINDOW"]

/-- The keywords, apart from those of types, that may be names of functions. -/
def callableWords : List String :=
  ["ALL", "ANY", "CALL", "COLLATE", "CONSTRAINT TRIGGER", "CURRENT_CATALOG", "CURRENT_DATE",
    "CURRENT_SCHEMA", "CURRENT_TIME", "CURRENT_TIMESTAMP", "CURRENT_USER", "DECLARE", "DO", "EXEC",
    "EXISTS", "EXPLAIN", "FILTER", "FIRST", "FORMAT", "GLOB", "ILIKE", "INDEX", "INSERT", "ISNULL",
    "LEFT", "LIKE", "LOCALTIME", "LOCALTIMESTAMP", "LOCK", "MERGE", "NEXT", "OFFSET", "OPTIMIZE",
    "PREPARE", "PRIMARY KEY", "REFRESH", "REGEXP", "REINDEX", "REPLACE", "RESET", "RIGHT", "RLIKE",
    "ROW", "SEQUENCE", "SESSION_USER", "SOME", "TABLE", "TRUNCATE", "UNNEST", "VACUUM", "WINDOW",
    "XOR"]

/-- The functions that are called without parentheses. -/
def bareFunctions : List String :=
  ["CURRENT_CATALOG", "CURRENT_DATE", "CURRENT_TIME", "CURRENT_TIMESTAMP", "CURRENT_USER",
    "LOCALTIME", "LOCALTIMESTAMP", "SESSION_USER"]

/-- The units of an interval. -/
def intervalUnits : List String :=
  ["C", "CENT", "CENTS", "CENTURIES", "CENTURY", "D", "DAY", "DAYOFMONTH", "DAYOFWEEK",
    "DAYOFYEAR", "DAYS", "DD", "DEC", "DECADE", "DECADES", "DECS", "DOW", "DOY", "DW", "DY",
    "EPOCH", "EPOCH_MICROSECOND", "EPOCH_MICROSECONDS", "EPOCH_MILLISECOND", "EPOCH_MILLISECONDS",
    "EPOCH_NANOSECOND", "EPOCH_NANOSECONDS", "EPOCH_SECOND", "EPOCH_SECONDS", "H", "HH", "HOUR",
    "HOURS", "HR", "HRS", "M", "MI", "MICROSEC", "MICROSECOND", "MICROSECONDS", "MICROSECS", "MIL",
    "MILLENIA", "MILLENNIUM", "MILLISEC", "MILLISECON", "MILLISECOND", "MILLISECONDS", "MILLISECS",
    "MILS", "MIN", "MINS", "MINUTE", "MINUTES", "MM", "MON", "MONS", "MONTH", "MONTHS", "MS",
    "MSEC", "MSECOND", "MSECONDS", "MSECS", "NANOSEC", "NANOSECOND", "NANOSECS", "NS", "NSEC",
    "NSECOND", "NSECONDS", "Q", "QTR", "QTRS", "QUARTER", "QUARTERS", "S", "SEC", "SECOND",
    "SECONDS", "SECS", "TIMEZONE_HOUR", "TIMEZONE_MINUTE", "TZH", "TZM", "US", "USEC", "USECOND",
    "USECONDS", "USECS", "W", "WEEK", "WEEKDAY", "WEEKISO", "WEEKOFYEAR", "WEEKOFYEARISO", "WEEKS",
    "WK", "WOY", "WY", "Y", "YEAR", "YEAROFWEEK", "YEAROFWEEKISO", "YEARS", "YR", "YRS", "YY",
    "YYY", "YYYY"]

namespace Token

/-- Whether a token is a word that is no keyword. -/
def isPlainWord : Token → Bool
  | .word _ capitals =>
    !reservedWords.contains capitals && !typeWords.contains capitals &&
      !namingWords.contains capitals
  | .parameter _ _ => true
  | _ => false

/-- Whether a token is a word that may be a name. -/
def isName : Token → Bool
  | .word _ capitals => !reservedWords.contains capitals
  | .parameter _ _ => true
  | _ => false

/-- Whether a token names a type. -/
def isType (token : Token) : Bool :=
  token.isOneOf typeWords

/-- Whether a token may be the name of a function. -/
def isCallable (token : Token) : Bool :=
  match token with
  | .quoted _ => true
  | token => token.isPlainWord || token.isType || token.isOneOf callableWords

/-- Whether a token may be a name where a name has to come: any word, text or
    number, and any mark of more than one character, but neither `NOT` nor
    `SELECT`. -/
def isAnyName : Token → Bool
  | .word _ capitals => capitals != "NOT" && capitals != "SELECT"
  | .mark spelling => spelling.length != 1 && spelling != "==" || spelling == "~"
  | .comment => false
  | _ => true

end Token
end DartModels.Sql
