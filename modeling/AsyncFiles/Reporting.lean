namespace AsyncFiles.Reporting

def core : String := "filament_core"

def pool : String := "filament_core::pool"

def context : String := "filament_core::context"

def cancellation : String := "filament_core::cancellation"

def service : String := "filament::service"

def native : String := "filament::native"

def targets : List String := [core, pool, context, cancellation, service, native]

end AsyncFiles.Reporting
