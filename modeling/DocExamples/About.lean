/-!
What a running service says about itself.
-/

namespace DocExamples.About

/-- The version of the service. -/
def version : String := "0.1.0"

/-- The name under which the service is known to clients. -/
def serviceName : String := "doctest-pipeline"

end DocExamples.About
