/-
ReleaseGate/Cli/Help.lean

What the command line tells about itself.
-/

namespace ReleaseGate.Cli

/-- The version of the program. -/
def programVersion : String := "1.0.0"

/-- What is printed when the version is asked for. -/
def versionText : String := "bumpgate " ++ programVersion ++ "\n"

/-- The lines about the use of the program. -/
def helpLines : List String :=
  ["usage: bumpgate [-h] [--version] --oldJarUri OLD_JAR_URI --oldJarVersion",
    "                OLD_JAR_VERSION --newJar NEW_JAR --newJarVersion",
    "                NEW_JAR_VERSION --textReport TEXT_REPORT --htmlReport",
    "                HTML_REPORT [--excludeList EXCLUDE_LIST] [--ignoreMissingOld]",
    "                [--japicmpJar JAPICMP_JAR] [--quiet]",
    "",
    "Check that a declared version bump covers the API changes between two jar/aar",
    "files",
    "",
    "options:",
    "  -h, --help            show this help message and exit",
    "  --version             show program's version number and exit",
    "  --oldJarUri OLD_JAR_URI, --oldJar OLD_JAR_URI",
    "                        The old jar/aar file: a local path, file: URI or",
    "                        http(s) URI",
    "  --oldJarVersion OLD_JAR_VERSION",
    "                        The old jar version (major.minor.patch)",
    "  --newJar NEW_JAR      The new jar/aar file",
    "  --newJarVersion NEW_JAR_VERSION",
    "                        The new jar version (major.minor.patch)",
    "  --textReport TEXT_REPORT",
    "                        The output file for the plain text report",
    "  --htmlReport HTML_REPORT",
    "                        The output file for the HTML report",
    "  --excludeList EXCLUDE_LIST",
    "                        A file containing a list of package/class exclusions,",
    "                        one per line",
    "  --ignoreMissingOld    Pass if the old jar does not exist (for modules with",
    "                        no previous release)",
    "  --japicmpJar JAPICMP_JAR",
    "                        The japicmp jar-with-dependencies (overrides",
    "                        BUMPGATE_JAPICMP_JAR)",
    "  --quiet               Suppress INFO output."]

/-- What is printed when help is asked for. -/
def helpText : String := String.join (helpLines.map (· ++ "\n"))

end ReleaseGate.Cli
