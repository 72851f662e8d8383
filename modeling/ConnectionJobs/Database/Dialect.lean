import ConnectionJobs.Text.Split

/-!
# Dialects and drivers

The scheme of a URL names a **dialect** of SQL and perhaps the **driver** that speaks it; a dialect named alone
has a driver that it uses by itself. The name after the plus sign may be that of something else which belongs to
the dialect: a module, a column type, a function. None of these can speak to a database.
-/

namespace ConnectionJobs.Database

/-- **The dialects.** -/
inductive Dialect where
  /-- PostgreSQL. -/
  | postgresql
  /-- SQLite. -/
  | sqlite
  /-- MySQL. -/
  | mysql
  /-- MariaDB, which has the drivers of MySQL. -/
  | mariadb
  /-- Oracle. -/
  | oracle
  /-- Microsoft SQL Server. -/
  | mssql
  deriving DecidableEq, Repr, Inhabited

namespace Dialect

/-- The name of a dialect in schemes. -/
def name : Dialect → String
  | postgresql => "postgresql"
  | sqlite => "sqlite"
  | mysql => "mysql"
  | mariadb => "mariadb"
  | oracle => "oracle"
  | mssql => "mssql"

/-- All dialects. -/
def all : List Dialect := [postgresql, sqlite, mysql, mariadb, oracle, mssql]

/-- The dialect of a name. -/
def named? (name : String) : Option Dialect := all.find? fun d => d.name == name

/-- The dialect whose drivers and parts a dialect has. -/
def family : Dialect → Dialect
  | mariadb => mysql
  | d => d

end Dialect

/-! ## Drivers -/

/-- **A driver.** -/
structure Driver where
  /-- The name of the driver in schemes. -/
  key : String
  /-- The name of the driver. -/
  name : String
  /-- The library that the driver needs, when it is not there. -/
  missing : Option String
  deriving DecidableEq, Repr, Inhabited

/-- **The drivers of a dialect**, the one that it uses by itself first. That one is also named `base`. -/
def Dialect.drivers (d : Dialect) : List Driver :=
  match d.family with
  | .postgresql =>
    [⟨"base", "psycopg", none⟩, ⟨"psycopg", "psycopg", none⟩, ⟨"psycopg_async", "psycopg", none⟩,
     ⟨"psycopg2", "psycopg2", some "psycopg2"⟩, ⟨"psycopg2cffi", "psycopg2cffi", some "psycopg2cffi"⟩,
     ⟨"pg8000", "pg8000", some "pg8000"⟩, ⟨"asyncpg", "asyncpg", some "asyncpg"⟩]
  | .sqlite =>
    [⟨"base", "pysqlite", none⟩, ⟨"pysqlite", "pysqlite", none⟩,
     ⟨"aiosqlite", "aiosqlite", some "aiosqlite"⟩, ⟨"pysqlcipher", "pysqlcipher", some "pysqlcipher3"⟩]
  | .mysql | .mariadb =>
    [⟨"base", "mysqldb", some "MySQLdb"⟩, ⟨"mysqldb", "mysqldb", some "MySQLdb"⟩,
     ⟨"pymysql", "pymysql", some "pymysql"⟩, ⟨"aiomysql", "aiomysql", some "aiomysql"⟩,
     ⟨"asyncmy", "asyncmy", some "asyncmy"⟩, ⟨"cymysql", "cymysql", some "cymysql"⟩,
     ⟨"mysqlconnector", "mysqlconnector", some "mysql"⟩, ⟨"mariadbconnector", "mariadbconnector", some "mariadb"⟩,
     ⟨"pyodbc", "pyodbc", some "pyodbc"⟩]
  | .oracle =>
    [⟨"base", "oracledb", some "oracledb"⟩, ⟨"oracledb", "oracledb", some "oracledb"⟩,
     ⟨"oracledb_async", "oracledb", some "oracledb"⟩, ⟨"cx_oracle", "cx_oracle", some "cx_Oracle"⟩]
  | .mssql =>
    [⟨"base", "pyodbc", some "pyodbc"⟩, ⟨"pyodbc", "pyodbc", some "pyodbc"⟩,
     ⟨"pymssql", "pymssql", some "pymssql"⟩, ⟨"aioodbc", "aioodbc", some "aioodbc"⟩,
     ⟨"mssqlpython", "mssqlpython", some "mssql_python"⟩]

/-! ## Other parts -/

/-- **A part of a dialect** that is no driver. -/
inductive Part where
  /-- A module, by its name. -/
  | module (name : String)
  /-- A type, by its name. -/
  | type (name : String)
  /-- A function. -/
  | function
  deriving DecidableEq, Repr, Inhabited

/-- The modules of a dialect, by the names that they have in schemes and their own. -/
def Dialect.modules (d : Dialect) : List (String × String) :=
  match d.family with
  | .postgresql =>
    ("arraylib", "array") :: ["_psycopg_common", "bitstring", "dml", "ext", "json", "named_types", "operators",
      "pg_catalog", "ranges", "types"].map fun name => (name, name)
  | .sqlite => ["dml", "json"].map fun name => (name, name)
  | .mysql | .mariadb =>
    ["dml", "enumerated", "expression", "json", "mariadb", "reflection", "reserved_words", "types"].map
      fun name => (name, name)
  | .oracle => ["dictionary", "types", "vector"].map fun name => (name, name)
  | .mssql => ["information_schema", "json"].map fun name => (name, name)

/-- The types of a dialect. -/
def Dialect.types (d : Dialect) : List String :=
  match d.family with
  | .postgresql =>
    ["ARRAY", "AbstractMultiRange", "AbstractRange", "AbstractSingleRange", "BIGINT", "BIT", "BOOLEAN", "BYTEA",
     "BitString", "CHAR", "CIDR", "CITEXT", "CreateDomainType", "CreateEnumType", "DATE", "DATEMULTIRANGE",
     "DATERANGE", "DOMAIN", "DOUBLE_PRECISION", "DropDomainType", "DropEnumType", "ENUM", "ExcludeConstraint",
     "FLOAT", "HSTORE", "INET", "INT4MULTIRANGE", "INT4RANGE", "INT8MULTIRANGE", "INT8RANGE", "INTEGER",
     "INTERVAL", "Insert", "JSON", "JSONB", "JSONPATH", "MACADDR", "MACADDR8", "MONEY", "MultiRange",
     "NUMERIC", "NUMMULTIRANGE", "NUMRANGE", "NamedType", "OID", "REAL", "REGCLASS", "REGCONFIG", "Range",
     "SMALLINT", "TEXT", "TIME", "TIMESTAMP", "TSMULTIRANGE", "TSQUERY", "TSRANGE", "TSTZMULTIRANGE",
     "TSTZRANGE", "TSVECTOR", "UUID", "VARCHAR", "aggregate_order_by", "array", "hstore", "phraseto_tsquery",
     "plainto_tsquery", "to_tsquery", "to_tsvector", "ts_headline", "websearch_to_tsquery"]
  | .sqlite =>
    ["BLOB", "BOOLEAN", "CHAR", "DATE", "DATETIME", "DECIMAL", "FLOAT", "INTEGER", "Insert", "JSON", "NUMERIC",
     "REAL", "SMALLINT", "TEXT", "TIME", "TIMESTAMP", "VARCHAR"]
  | .mysql | .mariadb =>
    ["BIGINT", "BINARY", "BIT", "BLOB", "BOOLEAN", "CHAR", "DATE", "DATETIME", "DECIMAL", "DOUBLE", "ENUM",
     "FLOAT", "INET4", "INET6", "INTEGER", "Insert", "JSON", "LONGBLOB", "LONGTEXT", "MEDIUMBLOB", "MEDIUMINT",
     "MEDIUMTEXT", "NCHAR", "NUMERIC", "NVARCHAR", "REAL", "SET", "SMALLINT", "TEXT", "TIME", "TIMESTAMP",
     "TINYBLOB", "TINYINT", "TINYTEXT", "VARBINARY", "VARCHAR", "YEAR", "match"]
  | .oracle =>
    ["BFILE", "BINARY_DOUBLE", "BINARY_FLOAT", "BLOB", "CHAR", "CLOB", "DATE", "DOUBLE_PRECISION", "FLOAT",
     "INTERVAL", "LONG", "NCHAR", "NCLOB", "NUMBER", "NVARCHAR", "RAW", "REAL", "ROWID", "SparseVector",
     "TIMESTAMP", "VARCHAR", "VARCHAR2", "VECTOR", "VectorDistanceType", "VectorIndexConfig",
     "VectorIndexType", "VectorStorageFormat", "VectorStorageType"]
  | .mssql =>
    ["BIGINT", "BINARY", "BIT", "CHAR", "DATE", "DATETIME", "DATETIME2", "DATETIMEOFFSET", "DECIMAL",
     "DOUBLE_PRECISION", "FLOAT", "IMAGE", "INTEGER", "JSON", "MONEY", "NCHAR", "NTEXT", "NUMERIC", "NVARCHAR",
     "REAL", "ROWVERSION", "SMALLDATETIME", "SMALLINT", "SMALLMONEY", "SQL_VARIANT", "TEXT", "TIME",
     "TIMESTAMP", "TINYINT", "UNIQUEIDENTIFIER", "VARBINARY", "VARCHAR", "XML"]

/-- The types of a dialect that have another name in schemes, by that name and their own. -/
def Dialect.renamedTypes (d : Dialect) : List (String × String) :=
  match d.family with
  | .postgresql =>
    [("dialect", "PGDialect_psycopg"), ("ModuleType", "module"), ("PGUuid", "UUID"), ("PGBit", "BIT"),
     ("PGCidr", "CIDR"), ("PGInet", "INET"), ("PGInterval", "INTERVAL"), ("PGMacAddr", "MACADDR"),
     ("PGMacAddr8", "MACADDR8")]
  | .sqlite => [("dialect", "SQLiteDialect_pysqlite")]
  | .mysql | .mariadb => [("dialect", "MySQLDialect_mysqldb")]
  | .oracle =>
    [("dialect", "OracleDialect_oracledb"), ("ModuleType", "module"), ("NVARCHAR2", "NVARCHAR")]
  | .mssql => [("dialect", "MSDialect_pyodbc")]

/-- The functions of a dialect. -/
def Dialect.functions (d : Dialect) : List String :=
  match d.family with
  | .postgresql => ["All", "Any", "array_agg", "distinct_on", "insert"]
  | .sqlite => ["insert"]
  | .mysql | .mariadb => ["insert", "limit"]
  | .oracle => []
  | .mssql => ["try_cast"]

/-- **The part of a dialect that a name in a scheme stands for.** MariaDB has only the modules of MySQL. -/
def Dialect.part? (d : Dialect) (key : String) : Option Part :=
  match d.modules.find? fun m => m.1 == key with
  | some (_, name) => some (.module name)
  | none =>
    if d = .mariadb then none
    else if key ∈ d.types then some (.type key)
    else if key ∈ d.functions then some .function
    else (d.renamedTypes.find? fun t => t.1 == key).map fun t => .type t.2

/-! ## Schemes -/

/-- **Why a scheme names no driver.** -/
inductive SchemeProblem where
  /-- It has more than two names. -/
  | tooManyNames
  /-- There is no such dialect or driver. -/
  | unknown (scheme : String)
  /-- It names a part of a dialect that is no driver. -/
  | noDriver (dialect : Dialect) (part : Part)
  deriving DecidableEq, Repr

/-- The message of a problem. -/
def SchemeProblem.message : SchemeProblem → String
  | tooManyNames => "too many values to unpack (expected 2)"
  | unknown scheme =>
    "Can't load plugin: sqlalchemy.dialects:" ++
      String.ofList (scheme.toList.map fun c => if c == '+' then '.' else c)
  | noDriver dialect part =>
    (match part with
      | .module name => "module 'sqlalchemy.dialects." ++ dialect.family.name ++ "." ++ name ++ "'"
      | .type name => "type object '" ++ name ++ "'"
      | .function => "'function' object") ++ " has no attribute 'dialect'"

/-- **The dialect and the driver of a scheme.** -/
def driverOf (scheme : String) : Except SchemeProblem (Dialect × Driver) :=
  match Text.piecesOf '+' scheme with
  | [] | _ :: _ :: _ :: _ => .error .tooManyNames
  | name :: keys =>
    let key := keys.headD "base"
    match Dialect.named? name with
    | none => .error (.unknown scheme)
    | some dialect =>
      match dialect.drivers.find? fun driver => driver.key == key with
      | some driver => .ok (dialect, driver)
      | none =>
        match dialect.part? key with
        | some part => .error (.noDriver dialect part)
        | none => .error (.unknown scheme)

end ConnectionJobs.Database
